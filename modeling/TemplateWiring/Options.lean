namespace TemplateWiring

structure Options where
  /-- A document with this extension has no siblings. -/
  templateExtension : String := "js"
  /-- Marks an element that binds itself. -/
  legacyBindAttribute : String := "w-bind"
  boundRootAttribute : String := "_componentbind"
  keyPrefix : String := "_r"
  componentConstantName : String := "marko_component"
  createHookName : String := "onCreate"
  deriving DecidableEq, Repr

end TemplateWiring
