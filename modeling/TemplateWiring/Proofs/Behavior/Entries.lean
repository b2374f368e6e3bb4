import TemplateWiring.Proofs.Behavior
import TemplateWiring.Proofs.Script.Members

namespace TemplateWiring.Behavior

open Script (Term MemberWords MethodKind MethodText)

structure Method where
  words : MemberWords
  kind : MethodKind
  isAsync : Bool
  isGenerator : Bool
  key : Term
  text : MethodText

/-- The method that a member is, comments in front of it passed over. -/
def method? : Term → Option Method
  | .method _ words kind isAsync isGenerator key _ _ text =>
    some ⟨words, kind, isAsync, isGenerator, key, text⟩
  | .noted _ m => method? m
  | _ => none

namespace Method

def isHidden (m : Method) : Bool :=
  match m.key with
  | .hash _ => true
  | _ => false

def writtenKey (m : Method) : String :=
  match m.key with
  | .computed _ => "[" ++ m.text.key ++ "]"
  | _ => m.text.key

def marks (m : Method) : String :=
  (if m.isAsync then "async " else "") ++ (if m.isGenerator then "*" else "")

def rest (m : Method) : String := m.text.params ++ " " ++ m.text.body

/-- What stands before the parameters. All of it is taken over as it is written, but for the key of
the constructor. -/
inductive Heads (hook : String) (m : Method) : String → Prop
  | plain (kind : m.kind = .plain) : Heads hook m (m.marks ++ m.writtenKey)
  | constructor (kind : m.kind = .constructor) : Heads hook m (m.marks ++ hook)
  | getter (kind : m.kind = .getter) : Heads hook m ("get " ++ m.writtenKey)
  | setter (kind : m.kind = .setter) : Heads hook m ("set " ++ m.writtenKey)

def Becomes (hook : String) (m : Method) (text : String) : Prop :=
  ∃ head, m.Heads hook head ∧ text = head ++ m.rest

end Method

def TakenOver (hook : String) (member : Term) (text : String) : Prop :=
  ∃ m, method? member = some m ∧ m.isHidden = false ∧ m.Becomes hook text

inductive Refused : Term → Failure → Prop
  | field (decorators : List Term) (words : MemberWords) (key : Term) (name : String)
      (value : Option Term) :
      Refused (.field decorators words false key name value)
        (.nonMethodMember ("field " ++ ticked name))
  | accessorField (decorators : List Term) (words : MemberWords) (key : Term) (name : String)
      (value : Option Term) :
      Refused (.field decorators words true key name value)
        (.nonMethodMember ("accessor field " ++ ticked name))
  | staticBlock (body : List Term) : Refused (.staticBlock body) (.nonMethodMember "static block")
  | noted (comments : List Script.Comment) {member : Term} {e : Failure}
      (refused : Refused member e) : Refused (.noted comments member) e
  | hidden {member : Term} {m : Method} (found : method? member = some m)
      (hidden : m.isHidden = true) :
      Refused member (.unsupportedMember m.text.key privateReason)

theorem entryParams_opens (text : MethodText) : ∃ behind, entryParams text = "(" ++ behind := by
  rw [entryParams]
  split
  next opens =>
    obtain ⟨behind, letters⟩ := List.head?_eq_some_iff.mp opens
    refine ⟨String.ofList behind, String.toList_injective ?_⟩
    simp [letters]
  · exact ⟨_, String.append_assoc⟩

def entryHead (hook : String) (m : Method) : String :=
  entryLead m.kind m.isAsync m.isGenerator ++ entryKey hook m.kind m.key m.text

theorem entry_of_method {hook : String} {member : Term} {m : Method}
    (found : method? member = some m) :
    entry hook member =
      if m.isHidden then .error (.unsupportedMember m.text.key privateReason)
      else
        .ok (entryHead hook m ++ entryParams m.text ++ " " ++ m.text.body) := by
  fun_induction method? member with
  | case1 decorators words kind isAsync isGenerator key params body text =>
      cases found
      cases key with
      | hash name => rfl
      | _ => rfl
  | case2 comments member ih => exact ih found
  | case3 => cases found

theorem entryKey_written (hook : String) (m : Method) (kind : m.kind ≠ .constructor) :
    entryKey hook m.kind m.key m.text = m.writtenKey := by
  rw [entryKey.eq_def, Method.writtenKey]
  split
  next found => exact absurd found kind
  next computed _ => rw [computed]
  next other =>
    split
    next key computed => exact (other key computed).elim
    · rfl

theorem entryHead_of_heads {hook head : String} {m : Method} (heads : m.Heads hook head) :
    entryHead hook m = head := by
  rw [entryHead]
  cases heads with
  | plain kind => rw [entryKey_written hook m (by rw [kind]; nofun), kind]; rfl
  | constructor kind => rw [kind]; rfl
  | getter kind => rw [entryKey_written hook m (by rw [kind]; nofun), kind]; rfl
  | setter kind => rw [entryKey_written hook m (by rw [kind]; nofun), kind]; rfl

theorem heads_entryHead (hook : String) (m : Method) : m.Heads hook (entryHead hook m) := by
  have named : ∃ head, m.Heads hook head := by
    cases kind : m.kind with
    | plain => exact ⟨_, .plain kind⟩
    | constructor => exact ⟨_, .constructor kind⟩
    | getter => exact ⟨_, .getter kind⟩
    | setter => exact ⟨_, .setter kind⟩
  obtain ⟨head, heads⟩ := named
  rwa [entryHead_of_heads heads]

theorem entry_of_refused {hook : String} {member : Term} {e : Failure}
    (refused : Refused member e) : entry hook member = .error e := by
  induction refused with
  | field | accessorField | staticBlock => rfl
  | noted comments refused ih => exact ih
  | hidden found hidden => rw [entry_of_method found, if_pos hidden]

theorem takenOver_or_refused (hook : String) {member : Term} (real : member.IsMember) :
    (∃ text, TakenOver hook member text) ∨ ∃ e, Refused member e := by
  induction real with
  | method decorators words kind isAsync isGenerator key params body text own =>
      cases hidden : Method.isHidden ⟨words, kind, isAsync, isGenerator, key, text⟩ with
      | true => exact .inr ⟨_, .hidden rfl hidden⟩
      | false => exact .inl ⟨_, _, rfl, hidden, _, heads_entryHead hook _, rfl⟩
  | field decorators words isAccessor key keyText value =>
      cases isAccessor with
      | true => exact .inr ⟨_, .accessorField ..⟩
      | false => exact .inr ⟨_, .field ..⟩
  | staticBlock body => exact .inr ⟨_, .staticBlock body⟩
  | noted comments real ih =>
      rcases ih with ⟨text, taken⟩ | ⟨e, refused⟩
      · exact .inl ⟨text, taken⟩
      · exact .inr ⟨e, .noted comments refused⟩

/-- What is put together is rendered, or was no script; where it was none is not told. -/
theorem serialize_cases (object : String) :
    (∃ text, serialize object = .ok text) ∨
      ∃ complaint, serialize object = .error (.malformed complaint none) := by
  rw [serialize]
  split
  · exact .inr ⟨_, rfl⟩
  · exact .inl ⟨_, rfl⟩

theorem leading_members {source : String} {items members : List Term} {parent : Option Term}
    (hook : String) (parsed : Script.parse (wrapped source) = .ok items)
    (leading : leadingClass? items = some (parent, members)) :
    ofClass source hook = ofMembers hook parent members ∧ ∀ m ∈ members, m.IsMember := by
  obtain ⟨e, rest, decorators, name, interfaces, rfl, bare⟩ := leadingClass_eq_some leading
  obtain ⟨text, opening⟩ := wrapped_eq source
  refine ⟨ofClass_leading hook parsed bare, ?_⟩
  rw [opening] at parsed
  exact Script.parse_holdsMembers parsed decorators name parent interfaces members bare

end TemplateWiring.Behavior
