import CatalogueViewer.CommandLine.Report
import CatalogueViewer.Proofs.Settings.Fields
import Mathlib.Data.List.Nodup

/-!
# Settings from a part of their text

Groups and fields may be left out of the text of settings.  What is left is read as the settings
that it keeps, with the defaults in the other places; values from the command line then take the
place of those two that they are given for: `excerpt_read_back`.
-/

namespace CatalogueViewer.ViewerSettings

open Into

/-- The numbers of the settings are within their ranges, and the theme variables in the order of
their names. -/
structure Representable (s : ViewerSettings) : Prop where
  debounce : s.debounce < UInt64.size
  maxDepth : s.maxDepth < UInt64.size
  outlineLevel : s.outlineLevel < UInt8.size
  themeVariables : s.engine.themeVariables.Pairwise fun v w => v.1 < w.1

/-! ### Excerpts -/

/-- Which groups of a settings text are not left out, and which of the fields in a group. -/
structure Excerpt where
  hasGroup : String → Bool
  hasField : String → String → Bool

namespace Excerpt

/-- The field is kept, and so is its group. -/
def keeps (x : Excerpt) (group field : String) : Bool := x.hasGroup group && x.hasField group field

/-- A group without the fields that are left out. -/
def ofGroup (x : Excerpt) (group : String) : Json → Json
  | .obj fields => .obj (fields.filter fun f => x.hasField group f.1)
  | v => v

/-- A settings text without the groups and fields that are left out. -/
def ofJson (x : Excerpt) : Json → Json
  | .obj groups =>
    .obj ((groups.map fun g => (g.1, x.ofGroup g.1 g.2)).filter fun g => x.hasGroup g.1)
  | v => v

/-- The settings where they are kept, and the defaults elsewhere. -/
def settings (x : Excerpt) (s : ViewerSettings) : ViewerSettings :=
  let standard : ViewerSettings := {}
  { debounce := if x.keeps "render" "debounce_ms" then s.debounce else standard.debounce
    maxDepth := if x.keeps "tree" "max_depth" then s.maxDepth else standard.maxDepth
    engine :=
      { startOnLoad :=
          if x.keeps "engine" "start_on_load" then s.engine.startOnLoad
          else standard.engine.startOnLoad
        theme := if x.keeps "engine" "theme" then s.engine.theme else standard.engine.theme
        securityLevel :=
          if x.keeps "engine" "security_level" then s.engine.securityLevel
          else standard.engine.securityLevel
        themeVariables :=
          if x.keeps "engine" "theme_variables" then s.engine.themeVariables
          else standard.engine.themeVariables }
    outlineLevel := if x.keeps "outline" "max_level" then s.outlineLevel else standard.outlineLevel }

/-- Nothing is left out. -/
def whole : Excerpt := ⟨fun _ => true, fun _ _ => true⟩

theorem ofJson_whole (s : ViewerSettings) : whole.ofJson s.toJson = s.toJson := rfl

theorem settings_whole (s : ViewerSettings) : whole.settings s = s := rfl

end Excerpt

/-! ### Groups as they are read -/

section

variable (s t : ViewerSettings) (x : Excerpt) (keep : String → Bool)

def renderGiven : List (Given ViewerSettings) :=
  [⟨"debounce_ms", .int s.debounce, fun t => { t with debounce := s.debounce }⟩]

def treeGiven : List (Given ViewerSettings) :=
  [⟨"max_depth", .int s.maxDepth, fun t => { t with maxDepth := s.maxDepth }⟩]

def engineGiven : List (Given ViewerSettings) :=
  [⟨"start_on_load", .bool s.engine.startOnLoad,
     fun t => { t with engine.startOnLoad := s.engine.startOnLoad }⟩,
   ⟨"theme", .str s.engine.theme, fun t => { t with engine.theme := s.engine.theme }⟩,
   ⟨"security_level", .str s.engine.securityLevel,
     fun t => { t with engine.securityLevel := s.engine.securityLevel }⟩,
   ⟨"theme_variables", .obj (s.engine.themeVariables.map fun v => (v.1, .str v.2)),
     fun t => { t with engine.themeVariables := s.engine.themeVariables }⟩]

def outlineGiven : List (Given ViewerSettings) :=
  [⟨"max_level", .int s.outlineLevel, fun t => { t with outlineLevel := s.outlineLevel }⟩]

theorem putAll_renderGiven :
    Given.putAll (s.renderGiven.filter fun g => keep g.name) t =
      { t with debounce := if keep "debounce_ms" then s.debounce else t.debounce } := by
  simp only [Given.putAll_filter, renderGiven, List.foldl_cons, List.foldl_nil]
  cases keep "debounce_ms" <;> rfl

theorem putAll_treeGiven :
    Given.putAll (s.treeGiven.filter fun g => keep g.name) t =
      { t with maxDepth := if keep "max_depth" then s.maxDepth else t.maxDepth } := by
  simp only [Given.putAll_filter, treeGiven, List.foldl_cons, List.foldl_nil]
  cases keep "max_depth" <;> rfl

theorem putAll_engineGiven :
    Given.putAll (s.engineGiven.filter fun g => keep g.name) t =
      { t with engine :=
        { startOnLoad := if keep "start_on_load" then s.engine.startOnLoad else t.engine.startOnLoad
          theme := if keep "theme" then s.engine.theme else t.engine.theme
          securityLevel :=
            if keep "security_level" then s.engine.securityLevel else t.engine.securityLevel
          themeVariables :=
            if keep "theme_variables" then s.engine.themeVariables
            else t.engine.themeVariables } } := by
  simp only [Given.putAll_filter, engineGiven, List.foldl_cons, List.foldl_nil]
  cases keep "start_on_load" <;> cases keep "theme" <;> cases keep "security_level" <;>
    cases keep "theme_variables" <;> rfl

theorem putAll_outlineGiven :
    Given.putAll (s.outlineGiven.filter fun g => keep g.name) t =
      { t with outlineLevel := if keep "max_level" then s.outlineLevel else t.outlineLevel } := by
  simp only [Given.putAll_filter, outlineGiven, List.foldl_cons, List.foldl_nil]
  cases keep "max_level" <;> rfl

/-- A group of those given fields that the excerpt keeps. -/
def Excerpt.group (name : String) (gs : List (Given ViewerSettings)) : Given ViewerSettings where
  name := name
  value := .obj ((gs.filter fun g => x.hasField name g.name).map Given.member)
  put := Given.putAll (gs.filter fun g => x.hasField name g.name)

def Excerpt.groups : List (Given ViewerSettings) :=
  [x.group "render" s.renderGiven, x.group "tree" s.treeGiven,
   x.group "engine" s.engineGiven, x.group "outline" s.outlineGiven]

end

variable {s : ViewerSettings} {x : Excerpt}

theorem Excerpt.ofGroup_member (name : String) (gs : List (Given ViewerSettings)) :
    (name, x.ofGroup name (.obj (gs.map Given.member))) = (x.group name gs).member := by
  rw [ofGroup, List.filter_map]
  rfl

theorem Excerpt.ofJson_toJson :
    x.ofJson s.toJson =
      .obj (((x.groups s).filter fun g => x.hasGroup g.name).map Given.member) := by
  have written : ((x.groups s).map Given.member) =
      [("render", x.ofGroup "render" (.obj (s.renderGiven.map Given.member))),
       ("tree", x.ofGroup "tree" (.obj (s.treeGiven.map Given.member))),
       ("engine", x.ofGroup "engine" (.obj (s.engineGiven.map Given.member))),
       ("outline", x.ofGroup "outline" (.obj (s.outlineGiven.map Given.member)))] := by
    simp only [ofGroup_member, groups, List.map_cons, List.map_nil]
  have split := List.filter_map (f := Given.member) (p := fun g => x.hasGroup g.1) (l := x.groups s)
  rw [written] at split
  exact congrArg Json.obj split

theorem Excerpt.isKnown_group {name shape : String} {known : List (Setting ViewerSettings)}
    {gs : List (Given ViewerSettings)} (each : ∀ g ∈ gs, g.IsKnown known)
    (apart : (gs.map Given.name).Nodup)
    (found : fields.find? (fun f => f.name = name) = some ⟨name, Into.group shape known⟩) :
    (x.group name gs).IsKnown fields := by
  refine ⟨_, found, takes_group (fun g member => each g ((List.mem_filter.mp member).1)) ?_ shape⟩
  exact apart.sublist (List.filter_sublist.map Given.name)

theorem Representable.isKnown_renderGiven (fits : s.Representable) :
    ∀ g ∈ s.renderGiven, g.IsKnown renderFields := by
  have within : Json.IntRange.word.contains s.debounce = true := by
    simpa [Json.IntRange.contains] using Int.ofNat_lt.mpr fits.debounce
  refine List.forall_mem_singleton.mpr ⟨_, rfl, ?_⟩
  exact (yields_whole within).takes fun (t : ViewerSettings) n => { t with debounce := n }

theorem Representable.isKnown_treeGiven (fits : s.Representable) :
    ∀ g ∈ s.treeGiven, g.IsKnown treeFields := by
  have within : Json.IntRange.count.contains s.maxDepth = true := by
    simpa [Json.IntRange.contains] using Int.ofNat_lt.mpr fits.maxDepth
  refine List.forall_mem_singleton.mpr ⟨_, rfl, ?_⟩
  exact (yields_whole within).takes fun (t : ViewerSettings) n => { t with maxDepth := n }

theorem Representable.isKnown_engineGiven (fits : s.Representable) :
    ∀ g ∈ s.engineGiven, g.IsKnown engineFields := by
  simp only [engineGiven, List.forall_mem_cons]
  refine ⟨⟨_, rfl, ?load⟩, ⟨_, rfl, ?theme⟩, ⟨_, rfl, ?level⟩, ⟨_, rfl, ?table⟩,
    fun _ none => nomatch none⟩
  case load =>
    exact (yields_flag _).takes fun (t : ViewerSettings) b => { t with engine.startOnLoad := b }
  case theme =>
    exact (yields_text _).takes fun (t : ViewerSettings) theme => { t with engine.theme := theme }
  case level =>
    exact (yields_text _).takes
      fun (t : ViewerSettings) level => { t with engine.securityLevel := level }
  case table =>
    exact (yields_textTable fits.themeVariables).takes
      fun (t : ViewerSettings) table => { t with engine.themeVariables := table }

theorem Representable.isKnown_outlineGiven (fits : s.Representable) :
    ∀ g ∈ s.outlineGiven, g.IsKnown outlineFields := by
  have within : Json.IntRange.byte.contains s.outlineLevel = true := by
    simpa [Json.IntRange.contains] using Int.ofNat_lt.mpr fits.outlineLevel
  refine List.forall_mem_singleton.mpr ⟨_, rfl, ?_⟩
  exact (yields_whole within).takes fun (t : ViewerSettings) n => { t with outlineLevel := n }

theorem Representable.isKnown_groups (fits : s.Representable) (x : Excerpt) :
    ∀ g ∈ x.groups s, g.IsKnown fields := by
  simp only [Excerpt.groups, List.forall_mem_cons]
  refine ⟨?render, ?tree, ?engine, ?outline, fun _ none => nomatch none⟩
  case render => exact Excerpt.isKnown_group fits.isKnown_renderGiven (List.nodup_singleton _) rfl
  case tree => exact Excerpt.isKnown_group fits.isKnown_treeGiven (List.nodup_singleton _) rfl
  case engine => exact Excerpt.isKnown_group fits.isKnown_engineGiven (by simp [engineGiven]) rfl
  case outline => exact Excerpt.isKnown_group fits.isKnown_outlineGiven (List.nodup_singleton _) rfl

/-! ### What is read -/

/-- A group that is left out changes nothing, as if each of its fields were left out. -/
theorem Excerpt.put_group (x : Excerpt) (name : String) (gs : List (Given ViewerSettings))
    (t : ViewerSettings) :
    (if x.hasGroup name then (x.group name gs).put t else t) =
      Given.putAll (gs.filter fun g => x.keeps name g.name) t := by
  unfold keeps group
  cases x.hasGroup name with
  | false => simp [Given.putAll]
  | true => rfl

theorem Excerpt.putAll_groups (s : ViewerSettings) (x : Excerpt) :
    Given.putAll ((x.groups s).filter fun g => x.hasGroup g.name) {} = x.settings s := by
  have named : ∀ name gs, (x.group name gs).name = name := fun _ _ => rfl
  rw [Given.putAll_filter]
  simp only [groups, List.foldl_cons, List.foldl_nil, named, put_group]
  rw [putAll_renderGiven, putAll_treeGiven, putAll_engineGiven, putAll_outlineGiven]
  rfl

theorem ofText_excerpt (fits : s.Representable) (x : Excerpt) :
    ofText (x.ofJson s.toJson).compact = .ok (x.settings s) := by
  have known : ∀ g ∈ (x.groups s).filter fun g => x.hasGroup g.name, g.IsKnown fields :=
    fun g member => fits.isKnown_groups x g (List.mem_filter.mp member).1
  have apart : (((x.groups s).filter fun g => x.hasGroup g.name).map Given.name).Nodup :=
    List.Nodup.sublist (List.filter_sublist.map Given.name)
      (by simp [Excerpt.groups, Excerpt.group])
  have read := takes_group known apart "ViewerConfig" ({} : ViewerSettings) [] Json.endsNumeral_nil
  rw [← Excerpt.ofJson_toJson, List.append_nil, Excerpt.putAll_groups] at read
  rw [ofText, Json.compact, String.toList_ofList, read]
  rfl

theorem load_eq_ok {files : Files} {path text : String} {t : ViewerSettings}
    (stored : files.read path = .ok text) (read : ofText text = .ok t) :
    load files path = .ok t := by
  rw [load, stored]
  exact congrArg (Except.mapError (SettingsError.invalid path)) read

/-! ### The command line -/

/-- The settings `u` have the values that are given, and those of `t` in the other places. -/
structure Overrides (t : ViewerSettings) (debounce maxDepth : Option Nat) (u : ViewerSettings) :
    Prop where
  debounce_given : ∀ n, debounce = some n → u.debounce = n
  debounce_kept : debounce = none → u.debounce = t.debounce
  maxDepth_given : ∀ n, maxDepth = some n → u.maxDepth = n
  maxDepth_kept : maxDepth = none → u.maxDepth = t.maxDepth
  engine : u.engine = t.engine
  outlineLevel : u.outlineLevel = t.outlineLevel

theorem overrides_override (t : ViewerSettings) (debounce maxDepth : Option Nat) :
    Overrides t debounce maxDepth (t.override debounce maxDepth) where
  debounce_given _ given := by rw [override, given, Option.getD_some]
  debounce_kept none := by rw [override, none, Option.getD_none]
  maxDepth_given _ given := by rw [override, given, Option.getD_some]
  maxDepth_kept none := by rw [override, none, Option.getD_none]
  engine := rfl
  outlineLevel := rfl

/-- What the arguments show under the settings `u`. -/
def openUnder (u : ViewerSettings) (files : Files) (a : CommandLine.Arguments) :
    Except String (Viewport × List String) := do
  let v ← (Viewport.ofFiles u files a.catalogue a.task).mapError OpenError.message
  CommandLine.showPage v a.select

theorem openViewport_of_load {files : Files} {a : CommandLine.Arguments} {path : String}
    {t : ViewerSettings} (named : a.config = some path) (loaded : load files path = .ok t) :
    CommandLine.openViewport files a =
      openUnder (t.override a.debounce a.maxDepth) files a := by
  rw [CommandLine.openViewport, named]
  dsimp only
  rw [loaded]
  rfl

/-- Settings are read back from any excerpt of their text, with the defaults where it has nothing,
and from the whole text as they were.  Given values take the place of those two settings and of no
other, so a run that names a file shows what its values and the rest of the file say. -/
theorem excerpt_read_back {s : ViewerSettings} (fits : s.Representable) (x : Excerpt) (files : Files)
    (path : String) :
    (files.read path = .ok (x.ofJson s.toJson).compact → load files path = .ok (x.settings s)) ∧
    (files.read path = .ok s.toJson.compact → load files path = .ok s) ∧
    (∀ t debounce maxDepth, Overrides t debounce maxDepth (t.override debounce maxDepth)) ∧
    ∀ (a : CommandLine.Arguments) (t : ViewerSettings), a.config = some path →
      load files path = .ok t → CommandLine.openViewport files a =
        openUnder (t.override a.debounce a.maxDepth) files a := by
  refine ⟨fun stored => load_eq_ok stored (ofText_excerpt fits x), fun stored => ?_,
    overrides_override, fun a t => openViewport_of_load⟩
  have read := ofText_excerpt fits .whole
  rw [Excerpt.ofJson_whole, Excerpt.settings_whole] at read
  exact load_eq_ok stored read

theorem read_of_toUTF8 (text : String) (path : String) :
    Files.read (fun _ => .ok text.toUTF8) path = .ok text := by
  have decoded : String.fromUTF8? text.toUTF8 = some text := dif_pos text.isValidUTF8
  rw [Files.read]
  dsimp only
  rw [decoded]

/-- Settings with the largest numbers and with texts that need escapes. -/
def bright : ViewerSettings where
  debounce := 18446744073709551615
  maxDepth := 7
  engine :=
    { startOnLoad := true
      theme := "\"bright\\\n"
      securityLevel := "strict"
      themeVariables := [("", "\x01"), ("größe", "1 px")] }
  outlineLevel := 255

/-- A group and a field of another one are left out. -/
theorem excerpt_read_back_bright :
    bright.Representable ∧
    load (fun _ => .ok (Excerpt.ofJson ⟨(· != "tree"), fun _ field => field != "security_level"⟩
        bright.toJson).compact.toUTF8) "viewer.json" =
      .ok { bright with maxDepth := 64, engine.securityLevel := "loose" } := by
  have fits : bright.Representable := by constructor <;> decide
  exact ⟨fits, (excerpt_read_back fits _ _ "viewer.json").1 (read_of_toUTF8 _ _)⟩

end CatalogueViewer.ViewerSettings
