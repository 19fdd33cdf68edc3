/-!
# Engine settings

What a diagram engine is configured with.  Theme variables are ordered by name.
-/

namespace CatalogueViewer

structure EngineSettings where
  startOnLoad : Bool := false
  theme : String := "default"
  securityLevel : String := "loose"
  themeVariables : List (String × String) :=
    [("altSectionBkgColor", "#ffffff"), ("gridColor", "#e1e4e8"), ("lineColor", "#595959"),
     ("primaryBorderColor", "#d9d9d9"), ("primaryColor", "#1890ff"),
     ("primaryTextColor", "#262626"), ("secondaryColor", "#f0f2f5"),
     ("sectionBkgColor", "#f6f8fa"), ("tertiaryColor", "#fafafa")]
  deriving DecidableEq, Repr

end CatalogueViewer
