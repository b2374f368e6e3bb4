import TemplateWiring.Script.Render.Form

namespace TemplateWiring.Script

mutual

def expr (p : Place) : Term → String
  | .this => "this"
  | .super => "super"
  | .null => "null"
  | .bool b => if b then "true" else "false"
  | .ident name => name
  | .hash name => "#" ++ name
  | .metaName text => text
  | .number x => numberText x
  | .bigint digits => digits ++ "n"
  | .string value => quoted value
  | .regex source => source
  | .template parts values => "`" ++ templateText parts (exprs (p.inside Level.lowest) values) ++ "`"
  | .spread value => "..." ++ expr (p.inside Level.comma) value
  | .hole => ""
  | .placed _ inner => expr p inner
  | .noted cs inner =>
    commentLines p.indent cs ++ "\n" ++ tabs p.indent ++ expr { p with lead := .nothing } inner
  | .tagged tag parts values =>
    expr { p.inside Level.trailing with lead := p.lead } tag ++ "`" ++
      templateText parts (exprs (p.inside Level.lowest) values) ++ "`"
  | .array items _ =>
    let q := if 2 < items.length then p.deeper.inside Level.comma else p.inside Level.comma
    listed "[" "]" 2 p.indent (closeHole items (exprs q items))
  | .object members _ =>
    let many := 1 < members.length
    let q := if many then p.deeper.operand Level.comma else p.operand Level.comma
    let parts := exprs q members
    wrapped p.blocks
      (if members.isEmpty then "\x7b\x7d"
       else if many then listed "\x7b" "\x7d" 1 p.indent parts
       else "\x7b " ++ joined parts ++ " \x7d")
  | .function head params body =>
    let q := p.withCalls
    word head.noEffects (noEffectsMark ++ " ") ++
      wrapped (p.kept || (p.declares && !head.noEffects))
        (functionText head (exprs (q.operand Level.comma) params)
          (functionBraces p.indent (bodyLines (q.deeper.operand Level.lowest) body)
            (closingComments body)))
  | .arrow isAsync noEffects params (.block body) =>
    word noEffects (noEffectsMark ++ " ") ++
      wrapped (p.kept || Level.assign ≤ p.level)
        (word isAsync "async " ++ "(" ++ joined (exprs (p.operand Level.comma) params) ++ ") => " ++
          functionBraces p.indent (bodyLines (p.deeper.operand Level.lowest) body)
            (closingComments body))
  | .arrow isAsync noEffects params value =>
    word noEffects (noEffectsMark ++ " ") ++
      wrapped (p.kept || Level.assign ≤ p.level)
        (word isAsync "async " ++ "(" ++ joined (exprs (p.operand Level.comma) params) ++ ") => " ++
          expr { p.operand Level.comma with lead := .arrowBody } value)
  | .classExpr decorators name parent interfaces members =>
    wrapped p.declares
      (decorated (decoratorTexts p.indent decorators) ++ "class" ++ className name ++
        (match parent with
          | none => ""
          | some e => " extends " ++ expr (p.inside Level.trailing) e) ++
        interfacesText interfaces ++ " " ++
        braces p.indent (classMembers (p.withCalls.deeper.operand Level.comma) members))
  | .paren inner => expr { p with kept := keepsParens inner } inner
  | .dot object name optional =>
    expr { p.first Level.trailing with noIn := false } object ++
      (if optional then "?." else if dotNeedsSpace object then " ." else ".") ++ name
  | .index object key optional =>
    let parens := isName object "let"
    let q := p.within parens
    wrapped parens (expr { q.first Level.trailing with noIn := false } object) ++
      (if optional then "?.[" else "[") ++ expr (p.inside Level.lowest) key ++ "]"
  | .call callee args optional pure =>
    let parens := Level.construct ≤ p.level || p.noCall || (pure && Level.trailing ≤ p.level)
    let lead := if (parens || pure) && p.lead == .arrowBody then Lead.nothing else p.lead
    wrapped parens
      (word pure pureMark ++ expr { p.inside Level.trailing with lead := lead } callee ++
        word optional "?." ++
        argumentsText p.indent p.indent args
          (argumentTexts (p.argument (hasComments args)) (hasComments args) args))
  | .chain inner =>
    let parens := Level.trailing ≤ p.level
    wrapped parens (expr (p.within parens) inner)
  | .construct callee args pure =>
    wrapped (Level.call ≤ p.level || (pure && Level.trailing ≤ p.level))
      (word pure pureMark ++ "new " ++
        expr { p.inside Level.construct with noCall := true } callee ++
        argumentsText p.indent p.indent args
          (argumentTexts (p.argument (hasComments args)) (hasComments args) args))
  | .importCall phase args =>
    let name := match phase with
      | some w => "import." ++ w
      | none => "import"
    wrapped (Level.construct ≤ p.level || p.noCall)
      (name ++
        argumentsText p.indent 0 args
          (argumentTexts (p.argument (hasComments args)) (hasComments args) args))
  | .unary op arg =>
    wrapped (Level.unary ≤ p.level) (unaryText op arg (expr (p.operand Level.power) arg))
  | .update op leading arg =>
    if leading then
      wrapped (Level.unary ≤ p.level) (prefixed op (expr (p.operand Level.unary) arg))
    else
      let parens := Level.trailing ≤ p.level
      wrapped parens (expr ((p.within parens).first Level.trailing) arg ++ op)
  | .binary op left right =>
    let parens := Level.binary op ≤ p.level || (op == "in" && p.noIn)
    let q := (p.within parens).withIn parens
    let levels := operandLevels op left right
    wrapped parens
      (expr (q.first levels.1) left ++ " " ++ op ++ " " ++ expr (q.operand levels.2) right)
  | .privateIn name right =>
    wrapped (Level.comparison ≤ p.level)
      ("#" ++ name ++ " in " ++ expr { p.inside Level.equality with noIn := true } right)
  | .assign op target value =>
    let parens := (p.blocks && isAssignedObject target) || Level.assign ≤ p.level
    let q := p.within parens
    wrapped parens
      (expr (q.first Level.comma) target ++ " " ++ op ++ " " ++
        expr (q.operand Level.comma) value)
  | .conditional test yes no =>
    let parens := Level.conditional ≤ p.level
    let q := ((p.within parens).withIn parens).withCalls
    wrapped parens
      (expr (q.first Level.conditional) test ++ " ? " ++ expr (q.inside Level.yields) yes ++ " : " ++
        expr (q.operand Level.yields) no)
  | .sequence items =>
    let parens := Level.comma ≤ p.level
    wrapped parens (joined (sequenceTexts ((p.within parens).withCalls.first Level.lowest) items))
  | .await arg => wrapped (Level.unary ≤ p.level) ("await " ++ expr (p.operand Level.power) arg)
  | .yield delegate none => wrapped (Level.assign ≤ p.level) (if delegate then "yield*" else "yield")
  | .yield delegate (some arg) =>
    wrapped (Level.assign ≤ p.level)
      ((if delegate then "yield* " else "yield ") ++ expr (p.inside Level.yields) arg)
  | .computed key => "[" ++ expr (p.inside Level.comma) key ++ "]"
  | .pair key value =>
    if sameName key value then expr (p.inside Level.comma) value
    else
      (if isInfinite key then "[Infinity]" else expr (p.inside Level.comma) key) ++ ": " ++
        expr (p.inside Level.comma) value
  | .short name _ none => name
  | .short name _ (some value) => name ++ " = " ++ expr (p.inside Level.comma) value
  | .objectMethod kind isAsync isGenerator key params body _ =>
    methodText kind isAsync isGenerator (expr (p.inside Level.comma) key)
      (exprs (p.operand Level.comma) params)
      (functionBraces p.indent (bodyLines (p.deeper.operand Level.lowest) body)
        (closingComments body))
  | .arrayPattern assigned items =>
    let parts := exprs (p.inside Level.comma) items
    if assigned then "[" ++ joined (closeHole items parts) ++ "]" else boundArray items parts
  | .objectPattern true fields =>
    "\x7b" ++ joined (fieldTexts true (p.inside Level.comma) fields) ++ "\x7d"
  | .objectPattern false fields => namesText (fieldTexts false (p.inside Level.comma) fields)
  | .withDefault inner value =>
    expr (p.inside Level.comma) inner ++ " = " ++ expr (p.operand Level.comma) value
  | .rest inner => "..." ++ expr (p.inside Level.comma) inner
  | _ => ""

def exprs (p : Place) : List Term → List String
  | [] => []
  | t :: ts => expr p t :: exprs p ts

/-- Only the first of several expressions is where the whole starts. -/
def sequenceTexts (p : Place) : List Term → List String
  | [] => []
  | t :: ts => expr p t :: exprs (p.operand p.level) ts

/-- The fields of a pattern. A name that is bound need not be said twice. -/
def fieldTexts (assigned : Bool) (p : Place) : List Term → List String
  | [] => []
  | .pair key value :: fields =>
    (if !assigned && bindsKey key value then expr p value
     else expr p key ++ ": " ++ expr p value) :: fieldTexts assigned p fields
  | t :: fields => expr p t :: fieldTexts assigned p fields

def decoratorTexts (indent : Nat) : List Term → List String
  | [] => []
  | d :: ds =>
    ("@" ++ wrapped (needsParens d) (expr { indent := indent } d)) :: decoratorTexts indent ds

/-- Arguments, each on lines of its own after its comments if there are comments at all. -/
def argumentTexts (p : Place) (onLines : Bool) : List Term → List String
  | [] => []
  | .remarks _ :: ts => argumentTexts p onLines ts
  | .noted cs t :: ts =>
    (commentLines p.indent cs ++ "\n" ++ tabs p.indent ++ expr p t) :: argumentTexts p onLines ts
  | t :: ts => (word onLines ("\n" ++ tabs p.indent) ++ expr p t) :: argumentTexts p onLines ts

def statements (p : Place) : List Term → String
  | [] => ""
  | t :: ts => statement p .line t ++ statements p ts

def bodyLines (p : Place) : List Term → String
  | [] => ""
  | t :: ts =>
    (match leadingString? t with
      | some s => "(" ++ quoted s ++ ");\n"
      | none => statement p .line t) ++ statements p ts

def classMembers (p : Place) : List Term → String
  | [] => ""
  | m :: ms => classMember p .line m ++ "\n" ++ classMembers p ms

def classMember (p : Place) (flow : Flow) : Term → String
  | .noted cs m => classMember p (flow.pass p.indent cs) m
  | .method decorators words kind isAsync isGenerator key params body _ =>
    flow.lead p.indent ++ decorated (decoratorTexts p.indent decorators) ++ methodLead words ++
      methodText kind isAsync isGenerator
        (expr (p.inside Level.comma) key ++ word words.isOptional "?")
        (exprs (p.operand Level.comma) params)
        (functionBraces p.indent (bodyLines (p.deeper.operand Level.lowest) body)
          (closingComments body))
  | .field decorators words isAccessor key _ value =>
    flow.lead p.indent ++ decorated (decoratorTexts p.indent decorators) ++
      fieldLead words isAccessor ++ expr (p.inside Level.comma) key ++
      word (words.isOptional && !isAccessor) "?" ++
      (match value with
        | none => ""
        | some e => " = " ++ expr (p.inside Level.comma) e) ++ ";"
  | .staticBlock body =>
    flow.lead p.indent ++ "static " ++
      braces p.indent (statements (p.deeper.operand Level.lowest) body)
  | _ => ""

def statement (p : Place) (flow : Flow) : Term → String
  | .noted cs t => statement p (flow.pass p.indent cs) t
  | .directive raw => flow.lead p.indent ++ quotedDirective raw ++ ";\n"
  | .empty => (if flow == .space then "" else flow.lead p.indent) ++ ";\n"
  | .debugger => flow.lead p.indent ++ "debugger;\n"
  | .block items =>
    flow.lead p.indent ++ braces p.indent (statements p.deeper items) ++ "\n"
  | .expr value =>
    flow.lead p.indent ++ expr { indent := p.indent, lead := .statement } value ++ ";\n"
  | .var kind ds =>
    flow.lead p.indent ++ kind.word ++ " " ++ joined (declarators (p.operand Level.comma) ds) ++
      ";\n"
  | .function head params body =>
    let q := p.withCalls
    flow.lead p.indent ++ word head.noEffects (noEffectsMark ++ "\n" ++ tabs p.indent) ++
      functionText head (exprs (q.operand Level.comma) params)
        (functionBraces p.indent (bodyLines (q.deeper.operand Level.lowest) body)
          (closingComments body)) ++ "\n"
  | .classExpr decorators name parent interfaces members =>
    flow.lead p.indent ++ decorated (decoratorTexts p.indent decorators) ++ "class" ++
      className name ++
      (match parent with
        | none => ""
        | some e => " extends " ++ expr (p.inside Level.trailing) e) ++
      interfacesText interfaces ++ " " ++
      braces p.indent (classMembers (p.withCalls.deeper.operand Level.comma) members) ++ "\n"
  | .cond test yes no =>
    flow.lead p.indent ++ "if (" ++ expr { indent := p.indent } test ++ ")" ++
      (match yes with
        | .block items =>
          " " ++ braces p.indent (statements p.deeper items) ++ (if no.isSome then " " else "\n")
        | other =>
          if endsInOpenIf other then
            " " ++ braces p.indent (statement p.deeper .line other) ++
              (if no.isSome then " " else "\n")
          else statement p .space other ++ (if no.isSome then tabs p.indent else "")) ++
      (match no with
        | none => ""
        | some other => "else" ++ statement p .space other)
  | .loop start test update body =>
    flow.lead p.indent ++ "for (" ++
      (match start with
        | none => ""
        | some (.var kind ds) =>
          kind.word ++ " " ++ joined (declarators { p.inside Level.comma with noIn := true } ds)
        | some e => expr { indent := p.indent, noIn := true } e) ++ ";" ++
      (match test with
        | none => ""
        | some e => " " ++ expr { indent := p.indent } e) ++ ";" ++
      (match update with
        | none => ""
        | some e => " " ++ expr { indent := p.indent } e) ++ ")" ++ statement p .space body
  | .each isAwait isOf target subject body =>
    flow.lead p.indent ++ "for" ++ word isAwait " await" ++ " (" ++
      (match target with
        | .var kind ds =>
          kind.word ++ " " ++ joined (declarators { p.inside Level.comma with noIn := true } ds)
        | e =>
          wrapped (isName e "async") (expr { p.inside Level.comma with noIn := true } e)) ++
      (if isOf then " of " else " in ") ++
      expr (p.inside (if isOf then Level.comma else Level.lowest)) subject ++ ")" ++
      statement p .space body
  | .while test body =>
    flow.lead p.indent ++ "while (" ++ expr { indent := p.indent } test ++ ")" ++
      statement p .space body
  | .with subject body =>
    flow.lead p.indent ++ "with(" ++ expr { indent := p.indent } subject ++ ")" ++
      statement p .space body
  | .doWhile body test =>
    let condition := "while (" ++ expr { indent := p.indent } test ++ ");\n"
    flow.lead p.indent ++ "do" ++
      (match body with
        | .block items => " " ++ braces p.indent (statements p.deeper items) ++ " " ++ condition
        | .empty => statement p .glued .empty ++ condition
        | .noted cs .empty => statement p .glued (.noted cs .empty) ++ condition
        | other => "\n" ++ statement p.deeper .line other ++ tabs p.indent ++ condition)
  | .switch subject cases =>
    flow.lead p.indent ++ "switch (" ++ expr { indent := p.indent } subject ++ ") " ++
      braces p.indent (switchCases p.deeper cases) ++ "\n"
  | .try items handler finalizer =>
    flow.lead p.indent ++ "try " ++ braces p.indent (statements p.deeper items) ++
      (match handler with
        | some (.handler none caught) =>
          " catch " ++ braces p.indent (statements p.deeper caught)
        | some (.handler (some param) caught) =>
          " catch (" ++ expr (p.inside Level.comma) param ++ ") " ++
            braces p.indent (statements p.deeper caught)
        | _ => "") ++
      (match finalizer with
        | some (.block items) => " finally " ++ braces p.indent (statements p.deeper items)
        | _ => "") ++ "\n"
  | .throw value => flow.lead p.indent ++ "throw " ++ expr { indent := p.indent } value ++ ";\n"
  | .return none => flow.lead p.indent ++ "return;\n"
  | .return (some value) =>
    flow.lead p.indent ++ "return " ++ expr { indent := p.indent } value ++ ";\n"
  | .break label => flow.lead p.indent ++ "break" ++ labelText label ++ ";\n"
  | .continue label => flow.lead p.indent ++ "continue" ++ labelText label ++ ";\n"
  | .labeled label body => flow.lead p.indent ++ label ++ ":" ++ statement p .space body
  | .importFrom phase names source => flow.lead p.indent ++ importText phase names source
  | .exportNames names source => flow.lead p.indent ++ exportNamesText names source
  | .exportAll name source => flow.lead p.indent ++ exportAllText name source
  | .exported declaration => flow.lead p.indent ++ "export" ++ statement p .space declaration
  | .exportDefault _ (.expr value) =>
    flow.lead p.indent ++ "export default " ++
      expr { indent := p.indent, level := Level.comma, lead := .defaultExport } value ++ ";\n"
  | .exportDefault _ declaration =>
    flow.lead p.indent ++ "export default" ++ statement p .space declaration
  | _ => ""

def declarators (p : Place) : List Term → List String
  | [] => []
  | .declarator target none :: ds => expr p target :: declarators p ds
  | .declarator target (some value) :: ds =>
    (expr (p.inside Level.comma) target ++ " = " ++ expr p value) :: declarators p ds
  | _ :: ds => declarators p ds

def switchCases (p : Place) : List Term → String
  | [] => ""
  | .case test [item] :: cs =>
    tabs p.indent ++
      (match test with
        | none => "default:"
        | some e => "case " ++ expr { indent := p.indent } e ++ ":") ++
      statement p .space item ++ switchCases p cs
  | .case test items :: cs =>
    tabs p.indent ++
      (match test with
        | none => "default:"
        | some e => "case " ++ expr { indent := p.indent } e ++ ":") ++
      "\n" ++ statements p.deeper items ++ switchCases p cs
  | _ :: cs => switchCases p cs

end

def render (items : List Term) : String :=
  bodyLines { indent := 0 } items ++ commentsText 0 (closingComments items)

end TemplateWiring.Script
