import TemplateWiring.Script.Exports
import TemplateWiring.Script.Parser.Statement

namespace TemplateWiring.Script

def Grammar.nestedTo : (depth : Nat) → Grammar
  | 0 =>
    { assignment := fun _ => Parser.unexpected
      binary := fun _ _ => Parser.unexpected
      unary := fun _ => Parser.unexpected
      chain := fun _ => Parser.unexpected
      member := fun _ => Parser.unexpected
      statement := fun _ _ => Parser.unexpected
      pattern := fun _ => Parser.unexpected }
  | depth + 1 =>
    { assignment := fun set => (nestedTo depth).assignmentExpression set
      binary := fun level set => (nestedTo depth).binaryExpression level set
      unary := fun set => (nestedTo depth).unaryExpression set
      chain := fun set => (nestedTo depth).chainExpression set
      member := fun set => (nestedTo depth).memberExpression set
      statement := fun alone set => (nestedTo depth).statementItem alone set
      pattern := fun set => (nestedTo depth).bindingPattern set }

/-- At the top level of a module, `await` is an operator. -/
def moduleSetting : Setting := { inAwait := true }

def notAtEnd : Parser Bool := do return !((← Parser.lexeme) == .finish)

/-- All statements, and the comments after them. Every production passes a token within three steps
of nesting, so four times the length of the text is deep enough. -/
def program (s : List Char) : Parser (List Term) := do
  let items ← (Grammar.nestedTo (4 * s.length + 8)).bodyItems moduleSetting notAtEnd
    (s.length + 1) true
  let cs ← Parser.comments
  return if cs.isEmpty then items else items ++ [.remarks cs]

/-- Faults of tokens first, then those recorded on the way, then the one that stopped the parse. In a
text that announces annotated types, they are all that is wrong. -/
def firstFault? (firstComment : Option (Nat × Bool)) (tokenFaults recorded last : List Fault) :
    Option Fault :=
  let fault? := (tokenFaults.reverse ++ recorded.reverse ++ last).head?
  match fault?, firstComment with
  | some _, some (start, true) => some ⟨.annotatedTypes, start⟩
  | _, _ => fault?

/-- The statements of a text. Names that are exported twice are looked for when nothing else is
wrong. -/
def parse (s : List Char) : Except Fault (List Term) :=
  match program s (Parser.start s) with
  | .error h =>
    .error ((firstFault? h.firstComment h.tokenFaults h.recorded [h.fault]).getD h.fault)
  | .ok (items, st) =>
    match firstFault? st.firstComment st.tokenFaults st.recorded
        (st.pending.toList.map (⟨.unusedInitializer, ·⟩)) with
    | some f => .error f
    | none =>
      match repeatedExport? items with
      | some f => .error f
      | none => .ok items

end TemplateWiring.Script
