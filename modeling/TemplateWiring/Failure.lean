namespace TemplateWiring

inductive Failure where
  | nonMethodMember (member : String)
  | unsupportedMember (member reason : String)
  | directoryRead (path cause : String)
  | invalidPattern (pattern cause : String)
  | duplicateInline (existing : String)
  | invalidInput (cause : String)
  deriving DecidableEq, Repr

namespace Failure

def message : Failure → String
  | nonMethodMember member =>
    "Only methods are allowed on single file component class definitions (found " ++ member ++ ")"
  | unsupportedMember member reason =>
    "Unsupported component class member '" ++ member ++ "': " ++ reason
  | directoryRead path cause => "Failed to read directory '" ++ path ++ "': " ++ cause
  | invalidPattern pattern cause => "Invalid sibling file pattern '" ++ pattern ++ "': " ++ cause
  | duplicateInline existing =>
    "An inline component module is already registered for this template (" ++ existing ++ ")"
  | invalidInput cause => "Invalid transform input: " ++ cause

end Failure

end TemplateWiring
