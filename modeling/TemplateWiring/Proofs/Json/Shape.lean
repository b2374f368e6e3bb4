import TemplateWiring.Proofs.Json.Reading

namespace TemplateWiring.Json

namespace Decoder

variable {α : Type} {d : Decoder α}

theorem refuse_ne_ok (r : Reading) (wanted : String) (a : α) : refuse r wanted ≠ .ok a := by
  intro refused
  unfold refuse at refused
  split at refused <;> cases refused

theorem string_ok {source : Source} {r : Reading} {s : String} (read : string source r = .ok s) :
    r = .str s := by
  unfold string at read
  split at read
  · cases read
    rfl
  · exact absurd read (refuse_ne_ok _ _ _)

theorem boolean_ok {source : Source} {r : Reading} {b : Bool} (read : boolean source r = .ok b) :
    r = .bool b := by
  unfold boolean at read
  split at read
  · cases read
    rfl
  · exact absurd read (refuse_ne_ok _ _ _)

theorem natural_ok {limit : Nat} {title : String} {source : Source} {r : Reading} {n : Nat}
    (read : natural limit title source r = .ok n) : r = .int n ∧ n < limit := by
  unfold natural at read
  split at read
  next i =>
    split at read
    next inside =>
      cases read
      rw [Int.toNat_of_nonneg inside.1]
      exact ⟨rfl, by omega⟩
    next => cases read
  next => exact absurd read (refuse_ne_ok _ _ _)

theorem listItems_eq_ok {source : Source} {rs : List Reading} {as : List α} :
    listItems d source rs = .ok as ↔ List.Forall₂ (fun r a => d source r = .ok a) rs as := by
  constructor
  · intro read
    induction rs generalizing as with
    | nil =>
        cases read
        exact .nil
    | cons r rs ih =>
        obtain ⟨a, first, read⟩ := ok_of_bind read
        obtain ⟨as, rest, read⟩ := ok_of_bind read
        cases read
        exact .cons first (ih rest)
  · intro each
    induction each with
    | nil => rfl
    | cons first _ ih =>
        rw [listItems, first, ih]
        rfl

theorem list_eq_ok {source : Source} {items : List Reading} {stop : Option Stop} {as : List α} :
    list d source (.list items stop) = .ok as ↔
      ∃ inner, source.enter = .ok inner ∧ Stop.atEnd stop = .ok () ∧
        List.Forall₂ (fun r a => d inner r = .ok a) items as := by
  constructor
  · intro read
    obtain ⟨inner, enter, read⟩ := ok_of_bind read
    obtain ⟨as, each, read⟩ := ok_of_bind read
    obtain ⟨⟨⟩, ended, read⟩ := ok_of_bind read
    cases read
    exact ⟨inner, enter, ended, listItems_eq_ok.mp each⟩
  · rintro ⟨inner, enter, ended, each⟩
    simp only [list, enter, listItems_eq_ok.mpr each, ended, bind, Except.bind]
    rfl

theorem list_ok {source : Source} {r : Reading} {as : List α} (read : list d source r = .ok as) :
    ∃ inner items stop, source.enter = .ok inner ∧ r = .list items stop ∧
      List.Forall₂ (fun r a => d inner r = .ok a) items as := by
  unfold list at read
  split at read
  next items stop =>
    obtain ⟨inner, enter, -, each⟩ := list_eq_ok.mp read
    exact ⟨inner, items, stop, enter, rfl, each⟩
  next => exact absurd read (refuse_ne_ok _ _ _)

theorem close_eq_ok {source : Source} {taken : Nat} {rest : List Reading} {stop : Option Stop} :
    Decoder.close source taken rest stop = .ok () ↔
      rest = [] ∧ Decoder.close source 0 [] stop = .ok () := by
  cases source <;> cases rest <;> simp [Decoder.close]

end Decoder

namespace Shape

variable {σ : Type} {sh : Shape σ} {source : Source}

/-- Members that are taken one after the other, the fields that they are for, and what they make of
a value. -/
inductive Taken (sh : Shape σ) (source : Source) :
    List (Key × Reading) → List String → (σ → σ) → Prop
  | nil : Taken sh source [] [] id
  | skip {name : String} {r : Reading} {ms : List (Key × Reading)} {names : List String}
      {store : σ → σ} (unknown : sh.fields.find? (·.name == name) = none)
      (passed : source.skip r = .ok ()) (rest : Taken sh source ms names store) :
      Taken sh source ((.name name, r) :: ms) names store
  | take {name : String} {r : Reading} {ms : List (Key × Reading)} {names : List String}
      {own store : σ → σ} {f : Slot σ} (found : sh.fields.find? (·.name == name) = some f)
      (fresh : name ∉ names) (read : f.decode source r = .ok own)
      (rest : Taken sh source ms names store) :
      Taken sh source ((.name name, r) :: ms) (name :: names) (store ∘ own)

theorem storeMembers_of_taken {ms : List (Key × Reading)} {names : List String} {store : σ → σ}
    (taken : Taken sh source ms names store) {seen : List String}
    (fresh : ∀ name ∈ names, name ∉ seen) (s : σ) :
    sh.storeMembers source seen s ms = .ok (names.reverse ++ seen, store s) := by
  induction taken generalizing seen s with
  | nil => rfl
  | skip unknown passed _ ih =>
      simp only [storeMembers, Key.read, unknown, passed, ih fresh, bind, Except.bind]
  | @take name r ms names own store f found new read _ ih =>
      obtain ⟨own_fresh, fresh⟩ := List.forall_mem_cons.mp fresh
      have later : ∀ other ∈ names, other ∉ name :: seen := by
        intro other member
        rw [List.mem_cons, not_or]
        exact ⟨fun same => new (same ▸ member), fresh other member⟩
      simp only [storeMembers, Key.read, found, own_fresh, read, ih later, bind, Except.bind,
        if_false]
      simp

theorem taken_of_storeMembers {ms : List (Key × Reading)} {seen after : List String} {s s' : σ}
    (stored : sh.storeMembers source seen s ms = .ok (after, s')) :
    ∃ names store, Taken sh source ms names store ∧ (∀ name ∈ names, name ∉ seen) ∧
      after = names.reverse ++ seen ∧ s' = store s := by
  induction ms generalizing seen s with
  | nil =>
      cases stored
      exact ⟨[], id, .nil, List.forall_mem_nil _, rfl, rfl⟩
  | cons m ms ih =>
      obtain ⟨key, r⟩ := m
      obtain ⟨name, named, onward⟩ := ok_of_bind stored
      cases key with
      | unreadable => cases named
      | name name =>
          cases named
          split at onward
          next unknown =>
            obtain ⟨⟨⟩, passed, rest⟩ := ok_of_bind onward
            obtain ⟨names, store, taken, fresh, after, made⟩ := ih rest
            exact ⟨names, store, .skip unknown passed taken, fresh, after, made⟩
          next f found =>
            split at onward
            · cases onward
            next unseen =>
              obtain ⟨own, read, rest⟩ := ok_of_bind onward
              obtain ⟨names, store, taken, fresh, rfl, rfl⟩ := ih rest
              have new : name ∉ names := fun member =>
                fresh name member List.mem_cons_self
              refine ⟨name :: names, store ∘ own, .take found new read taken, ?_, by simp, rfl⟩
              exact List.forall_mem_cons.mpr ⟨unseen, fun other member among =>
                fresh other member (List.mem_cons_of_mem _ among)⟩

theorem decode_object {ms : List (Key × Reading)} {stop : Option Stop} {s : σ} :
    sh.decode source (.object ms stop) = .ok s ↔
      ∃ inner names store, source.enter = .ok inner ∧ Taken sh inner ms names store ∧
        Stop.atEnd stop = .ok () ∧ (∀ f ∈ sh.fields, f.needed = true → f.name ∈ names) ∧
        s = store sh.blank := by
  constructor
  · intro read
    obtain ⟨inner, enter, read⟩ := ok_of_bind read
    obtain ⟨⟨seen, s'⟩, stored, read⟩ := ok_of_bind read
    obtain ⟨⟨⟩, ended, read⟩ := ok_of_bind read
    obtain ⟨names, store, taken, -, rfl, rfl⟩ := taken_of_storeMembers stored
    split at read
    · cases read
    next complete =>
      cases read
      refine ⟨inner, names, store, enter, taken, ended, fun f known needed => ?_, rfl⟩
      rw [missing?, Option.map_eq_none_iff, List.find?_eq_none] at complete
      simpa [needed] using complete f known
  · rintro ⟨inner, names, store, enter, taken, ended, complete, rfl⟩
    have fresh : ∀ name ∈ names, name ∉ ([] : List String) := fun _ _ => List.not_mem_nil
    have stored := storeMembers_of_taken taken fresh sh.blank
    have nothing : sh.missing? (names.reverse ++ []) = none := by
      rw [missing?, Option.map_eq_none_iff, List.find?_eq_none]
      intro f known
      by_cases needed : f.needed = true
      · simp [complete f known needed]
      · simp [needed]
    simp only [decode, enter, ofObject, stored, ended, nothing, bind, Except.bind]
    rfl

theorem Taken.names {ms : List (Key × Reading)} {names : List String} {store : σ → σ}
    (taken : Taken sh source ms names store) : ∀ name ∈ names, ∃ m ∈ ms, m.1 = .name name := by
  induction taken with
  | nil => exact List.forall_mem_nil _
  | skip _ _ _ ih =>
      intro name member
      obtain ⟨m, among, key⟩ := ih name member
      exact ⟨m, List.mem_cons_of_mem _ among, key⟩
  | take _ _ _ _ ih =>
      intro name member
      rcases List.mem_cons.mp member with rfl | later
      · exact ⟨_, List.mem_cons_self, rfl⟩
      · obtain ⟨m, among, key⟩ := ih name later
        exact ⟨m, List.mem_cons_of_mem _ among, key⟩

inductive Filled (source : Source) (stop : Option Stop) :
    List (Slot σ) → List Reading → (σ → σ) → Prop
  | full (closed : Decoder.close source 0 [] stop = .ok ()) : Filled source stop [] [] id
  | short {f : Slot σ} {fs : List (Slot σ)} {store : σ → σ} (ended : Stop.atEnd stop = .ok ())
      (free : f.neededInList = false) (rest : Filled source stop fs [] store) :
      Filled source stop (f :: fs) [] store
  | take {f : Slot σ} {fs : List (Slot σ)} {r : Reading} {rs : List Reading} {own store : σ → σ}
      (read : f.decode source r = .ok own) (rest : Filled source stop fs rs store) :
      Filled source stop (f :: fs) (r :: rs) (store ∘ own)

theorem storeItems_eq_ok {stop : Option Stop} {taken : Nat} {s s' : σ} {fs : List (Slot σ)}
    {rs : List Reading} : sh.storeItems source stop taken s fs rs = .ok s' ↔
      ∃ store, Filled source stop fs rs store ∧ s' = store s := by
  constructor
  · intro stored
    induction fs generalizing taken s rs with
    | nil =>
        obtain ⟨⟨⟩, closed, made⟩ := ok_of_bind stored
        obtain ⟨rfl, closed⟩ := Decoder.close_eq_ok.mp closed
        cases made
        exact ⟨id, .full closed, rfl⟩
    | cons f fs ih =>
        cases rs with
        | nil =>
            obtain ⟨⟨⟩, ended, stored⟩ := ok_of_bind stored
            split at stored
            · cases stored
            next free =>
              obtain ⟨store, filled, made⟩ := ih stored
              exact ⟨store, .short ended (by simpa using free) filled, made⟩
        | cons r rs =>
            obtain ⟨own, read, stored⟩ := ok_of_bind stored
            obtain ⟨store, filled, made⟩ := ih stored
            exact ⟨store ∘ own, .take read filled, made⟩
  · rintro ⟨store, filled, rfl⟩
    induction filled generalizing taken s with
    | full closed =>
        simp only [storeItems, Decoder.close_eq_ok.mpr ⟨rfl, closed⟩, bind, Except.bind]
        rfl
    | short ended free _ ih =>
        simp only [storeItems, ended, free, ih, bind, Except.bind, Bool.false_eq_true, if_false]
    | take read _ ih =>
        simp only [storeItems, read, ih, bind, Except.bind]
        rfl

theorem decode_list {items : List Reading} {stop : Option Stop} {s : σ} :
    sh.decode source (.list items stop) = .ok s ↔
      ∃ inner store, source.enter = .ok inner ∧ Filled inner stop sh.fields items store ∧
        s = store sh.blank := by
  constructor
  · intro read
    obtain ⟨inner, enter, stored⟩ := ok_of_bind read
    obtain ⟨store, filled, made⟩ := storeItems_eq_ok.mp stored
    exact ⟨inner, store, enter, filled, made⟩
  · rintro ⟨inner, store, enter, filled, made⟩
    simp only [decode, enter, bind, Except.bind]
    exact storeItems_eq_ok.mpr ⟨store, filled, made⟩

theorem depth_of_decode {r : Reading} {s : σ} (read : sh.decode source r = .ok s) :
    1 ≤ r.depth := by
  unfold decode at read
  split at read
  · exact Nat.succ_le_succ (Nat.zero_le _)
  · exact Nat.succ_le_succ (Nat.zero_le _)
  · exact absurd read (Decoder.refuse_ne_ok _ _ _)

theorem Taken.induct {P : σ → Prop} {ms : List (Key × Reading)} {names : List String}
    {store : σ → σ} (taken : Taken sh source ms names store)
    (each : ∀ f ∈ sh.fields, ∀ m ∈ ms, ∀ own, f.decode source m.2 = .ok own → ∀ s, P s → P (own s))
    {s : σ} (holds : P s) : P (store s) := by
  induction taken generalizing s with
  | nil => exact holds
  | skip _ _ _ ih =>
      exact ih (fun f known m member => each f known m (List.mem_cons_of_mem _ member)) holds
  | take found _ read _ ih =>
      exact ih (fun f known m member => each f known m (List.mem_cons_of_mem _ member))
        (each _ (List.mem_of_find?_eq_some found) _ List.mem_cons_self _ read s holds)

theorem Filled.induct {P : σ → Prop} {stop : Option Stop} {fs : List (Slot σ)} {rs : List Reading}
    {store : σ → σ} (filled : Filled source stop fs rs store)
    (each : ∀ f ∈ fs, ∀ r ∈ rs, ∀ own, f.decode source r = .ok own → ∀ s, P s → P (own s))
    {s : σ} (holds : P s) : P (store s) := by
  induction filled generalizing s with
  | full => exact holds
  | short _ _ _ ih =>
      exact ih (fun f known => each f (List.mem_cons_of_mem _ known)) holds
  | take read _ ih =>
      exact ih (fun f known r member => each f (List.mem_cons_of_mem _ known) r
          (List.mem_cons_of_mem _ member))
        (each _ List.mem_cons_self _ List.mem_cons_self _ read s holds)

/-- What holds of a record with nothing stored, and whatever part is stored in it, holds of every
record that is decoded. -/
theorem decode_induct {P : σ → Prop} {r : Reading} {s : σ} (blank : P sh.blank)
    (each : ∀ inner, source.enter = .ok inner → ∀ f ∈ sh.fields, ∀ x ∈ r.parts, ∀ store,
      f.decode inner x = .ok store → ∀ s, P s → P (store s))
    (read : sh.decode source r = .ok s) : P s := by
  have collection := depth_of_decode read
  cases r with
  | object ms stop =>
      obtain ⟨inner, names, store, enter, taken, -, -, rfl⟩ := decode_object.mp read
      exact taken.induct (fun f known m member =>
        each inner enter f known m.2 (List.mem_map_of_mem member)) blank
  | list items stop =>
      obtain ⟨inner, store, enter, filled, rfl⟩ := decode_list.mp read
      exact filled.induct (each inner enter) blank
  | _ => cases collection

theorem Taken.member {ms : List (Key × Reading)} {names : List String} {store : σ → σ}
    (taken : Taken sh source ms names store) {name : String} {r : Reading}
    (member : (.name name, r) ∈ ms) {f : Slot σ}
    (found : sh.fields.find? (·.name == name) = some f) :
    ∃ own, f.decode source r = .ok own := by
  induction taken with
  | nil => cases member
  | skip unknown _ _ ih =>
      rcases List.mem_cons.mp member with same | later
      · cases same
        cases found.symm.trans unknown
      · exact ih later
  | @take _ _ _ _ own _ _ known _ read _ ih =>
      rcases List.mem_cons.mp member with same | later
      · cases same
        cases found.symm.trans known
        exact ⟨own, read⟩
      · exact ih later

theorem decode_member {ms : List (Key × Reading)} {stop : Option Stop} {s : σ}
    (read : sh.decode source (.object ms stop) = .ok s) {name : String} {r : Reading}
    (member : (.name name, r) ∈ ms) {f : Slot σ}
    (found : sh.fields.find? (·.name == name) = some f) :
    ∃ inner store, source.enter = .ok inner ∧ f.decode inner r = .ok store := by
  obtain ⟨inner, names, store, enter, taken, -⟩ := decode_object.mp read
  obtain ⟨own, decoded⟩ := taken.member member found
  exact ⟨inner, own, enter, decoded⟩

end Shape

theorem decodeText_ok {α : Type} {d : Decoder α} {text : String} {a : α}
    (read : decodeText d text = .ok a) :
    d (.reading maxDepth) (Reading.ofText text).1 = .ok a := by
  unfold decodeText at read
  generalize Reading.ofText text = whole at read ⊢
  obtain ⟨b, decoded, read⟩ := ok_of_bind read
  split at read
  · cases read
  · cases read
    exact decoded

end TemplateWiring.Json
