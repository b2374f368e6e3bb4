namespace TemplateWiring.Script

structure Comment where
  /-- The whole comment, with its signs. -/
  text : String
  isLine : Bool
  /-- Whether it is the first thing on its line. -/
  afterBreak : Bool
  beforeBreak : Bool
  /-- Whether it is a mark, which is written out with what it marks. -/
  isMark : Bool
  deriving DecidableEq, Repr

namespace Comment

def endsLine (c : Comment) : Bool := c.isLine || c.beforeBreak

def touchesBreak (c : Comment) : Bool := c.afterBreak || c.beforeBreak

end Comment

end TemplateWiring.Script
