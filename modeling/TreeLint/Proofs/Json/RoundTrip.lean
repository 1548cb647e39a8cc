import TreeLint.Json.Reader
import TreeLint.Proofs.Json.Spelling

/-!
# Reading printed values

The automaton that reads values meets the tokens of a value and hands the value to whatever is open
around it. So a value that is printed, in either layout, is read back. Numbers are read as far as 64
bits go; everything else comes back as it was.

**Results.**
* `run?_tokensOf`: the automaton reads a value off its tokens.
* `read?_compact`, `read?_pretty`: a printed value is read back.
-/

namespace TreeLint
namespace Json

mutual

/-- A value with the numbers that are read for its numbers. -/
def Value.reread : Value → Value
  | .number (.natural n) => readNatural n
  | .array items => .array (Value.rereadItems items)
  | .object fields => .object (Value.rereadFields fields)
  | v => v

def Value.rereadItems : List Value → List Value
  | [] => []
  | v :: rest => v.reread :: Value.rereadItems rest

def Value.rereadFields : List (String × Value) → List (String × Value)
  | [] => []
  | (name, v) :: rest => (name, v.reread) :: Value.rereadFields rest

end

namespace Value

@[simp] theorem reread_array (items : List Value) :
    (array items).reread = .array (items.map reread) := by
  rw [reread]
  congr 1
  induction items with
  | nil => rfl
  | cons v items ih => rw [rereadItems, ih, List.map_cons]

@[simp] theorem reread_object (fields : List (String × Value)) :
    (object fields).reread = .object (fields.map fun f => (f.1, f.2.reread)) := by
  rw [reread]
  congr 1
  induction fields with
  | nil => rfl
  | cons f fields ih => rw [rereadFields, ih, List.map_cons]

@[simp] theorem reread_nat (n : Nat) : (nat n).reread = readNatural n :=
  rfl

/-- A field of an object is read back with the object. -/
theorem field?_reread (fields : List (String × Value)) (name : String) :
    (object fields).reread.field? name = ((object fields).field? name).map reread := by
  rw [reread_object, field?, field?]
  induction fields with
  | nil => rfl
  | cons f fields ih =>
      rw [List.map_cons, List.lookup_cons, List.lookup_cons]
      cases name == f.1
      · exact ih
      · rfl

/-- A field is read back with the value it is in. -/
@[simp] theorem field?_reread_eq (v : Value) (name : String) :
    v.reread.field? name = (v.field? name).map reread := by
  cases v with
  | object fields => exact field?_reread fields name
  | array items =>
      rw [reread_array]
      rfl
  | number n =>
      cases n with
      | natural n =>
          rw [reread, readNatural]
          split <;> rfl
      | _ => rfl
  | _ => rfl

/-- The items of an array are read back with it. -/
@[simp] theorem array?_reread (v : Value) : v.reread.array? = v.array?.map (List.map reread) := by
  cases v with
  | object fields =>
      rw [reread_object]
      rfl
  | array items =>
      rw [reread_array]
      rfl
  | number n =>
      cases n with
      | natural n =>
          rw [reread, readNatural]
          split <;> rfl
      | _ => rfl
  | _ => rfl

end Value

/-! ## The automaton -/

theorem State.run?_cons_of_step? {s next : State} {t : Token} (h : s.step? t = some next)
    (ts : List Token) : s.run? (t :: ts) = next.run? ts := by
  rw [State.run?, h]

/-- A container is handed on as it is, unless it is nested too deeply. -/
theorem close_of_lt {outer : List Frame} (h : outer.length < maxDepth) (v : Value) :
    close outer v = give v outer := by
  rw [close, if_pos h]

/-- The first item of an array is read like any other, since no value starts with a closing
bracket. -/
theorem run?_itemOrEnd (v : Value) (stack : List Frame) (ts : List Token) :
    State.run? ⟨stack, .itemOrEnd⟩ (tokensOf v ++ ts) =
      State.run? ⟨stack, .item⟩ (tokensOf v ++ ts) := by
  cases v with
  | number n => cases n <;> rfl
  | null => rfl
  | bool b => rfl
  | string s => rfl
  | array items => rfl
  | object fields => rfl
  | unusable => rfl

section Containers

variable {stack : List Frame} {ts : List Token}

/-- A value is read off its tokens wherever it may be nested. -/
def Reads (depth : Nat) (v : Value) : Prop :=
  ∀ stack ts, stack.length + depth ≤ maxDepth →
    State.run? ⟨stack, .item⟩ (tokensOf v ++ ts) = (give v.reread stack).run? ts

/-- The items of an array are read one after another. -/
theorem run?_tokensOfItems {depth : Nat} (hdepth : stack.length + (depth + 1) ≤ maxDepth)
    (vs : List Value) :
    ∀ v done, (∀ w ∈ v :: vs, Reads depth w) →
      State.run? ⟨.array done :: stack, .item⟩ (tokensOfItems (v :: vs) ++ .closeArray :: ts) =
        (close stack (.array (done.reverse ++ (v :: vs).map Value.reread))).run? ts := by
  have hinner : ∀ done, (Frame.array done :: stack).length + depth ≤ maxDepth := by
    intro done
    rw [List.length_cons]
    omega
  induction vs with
  | nil =>
      intro v done h
      have hclose : (give v.reread (.array done :: stack)).step? .closeArray =
          some (close stack (.array (v.reread :: done).reverse)) := rfl
      rw [tokensOfItems, h v List.mem_cons_self _ _ (hinner done),
        State.run?_cons_of_step? hclose, List.reverse_cons]
      rfl
  | cons w vs ih =>
      intro v done h
      have hcomma : (give v.reread (.array done :: stack)).step? .comma =
          some ⟨.array (v.reread :: done) :: stack, .item⟩ := rfl
      have htokens : tokensOfItems (v :: w :: vs) ++ .closeArray :: ts =
          tokensOf v ++ .comma :: (tokensOfItems (w :: vs) ++ .closeArray :: ts) := by
        rw [tokensOfItems, List.append_assoc, List.cons_append]
        exact List.cons_ne_nil w vs
      rw [htokens, h v List.mem_cons_self _ _ (hinner done), State.run?_cons_of_step? hcomma,
        ih w (v.reread :: done) fun x hx => h x (List.mem_cons_of_mem v hx), List.reverse_cons,
        List.append_assoc]
      rfl

/-- The fields of an object are read one after another. -/
theorem run?_tokensOfFields {depth : Nat} (hdepth : stack.length + (depth + 1) ≤ maxDepth)
    (fs : List (String × Value)) :
    ∀ f done name, (∀ e ∈ f :: fs, Reads depth e.2) →
      State.run? ⟨.object done name true :: stack, .name⟩
          (tokensOfFields (f :: fs) ++ .closeObject :: ts) =
        (close stack (.object
          (done.reverse ++ (f :: fs).map fun e => (e.1, e.2.reread)))).run? ts := by
  have hinner : ∀ done name, (Frame.object done name true :: stack).length + depth ≤ maxDepth := by
    intro done name
    rw [List.length_cons]
    omega
  have hfield : ∀ (f : String × Value) done name us, Reads depth f.2 →
      State.run? ⟨.object done name true :: stack, .name⟩ (tokensOfField f ++ us) =
        State.run? ⟨.object ((f.1, f.2.reread) :: done) f.1 true :: stack, .next⟩ us := by
    intro f done name us hread
    have hname : State.step? ⟨.object done name true :: stack, .name⟩ (.text (some f.1)) =
        some ⟨.object done f.1 true :: stack, .colon⟩ := rfl
    have hcolon : State.step? ⟨.object done f.1 true :: stack, .colon⟩ .colon =
        some ⟨.object done f.1 true :: stack, .item⟩ := rfl
    rw [tokensOfField, List.cons_append, List.cons_append, State.run?_cons_of_step? hname,
      State.run?_cons_of_step? hcolon, hread _ _ (hinner done f.1)]
    rfl
  induction fs with
  | nil =>
      intro f done name h
      have hclose : State.step? ⟨.object ((f.1, f.2.reread) :: done) f.1 true :: stack, .next⟩
          .closeObject =
            some (close stack (.object ((f.1, f.2.reread) :: done).reverse)) := rfl
      have htokens : tokensOfFields [f] = tokensOfField f := rfl
      simp [htokens, hfield f done name _ (h f List.mem_cons_self), State.run?_cons_of_step? hclose]
  | cons e fs ih =>
      intro f done name h
      have hcomma : State.step? ⟨.object ((f.1, f.2.reread) :: done) f.1 true :: stack, .next⟩
          .comma = some ⟨.object ((f.1, f.2.reread) :: done) f.1 true :: stack, .name⟩ := rfl
      have htokens : tokensOfFields (f :: e :: fs) ++ .closeObject :: ts =
          tokensOfField f ++ .comma :: (tokensOfFields (e :: fs) ++ .closeObject :: ts) := by
        rw [tokensOfFields_eq, tokensOfFields_eq, List.map_cons, List.map_cons,
          List.intercalate_cons_cons]
        simp
      simp [htokens, hfield f done name _ (h f List.mem_cons_self), State.run?_cons_of_step? hcomma,
        ih e _ f.1 fun x hx => h x (List.mem_cons_of_mem f hx)]

end Containers

/-- The automaton reads a value off its tokens. -/
theorem run?_tokensOf {depth : Nat} {v : Value} (h : v.Fits depth) : Reads depth v := by
  induction h with
  | null => exact fun _ _ _ => rfl
  | bool b => exact fun _ _ _ => rfl
  | natural n => exact fun _ _ _ => rfl
  | string s => exact fun _ _ _ => rfl
  | @array depth items _ ih =>
      intro stack ts hdepth
      have hopen : State.step? ⟨stack, .item⟩ .openArray =
          some ⟨.array [] :: stack, .itemOrEnd⟩ := rfl
      have hclose : close stack (.array (items.map Value.reread)) =
          give (.array (items.map Value.reread)) stack := close_of_lt (by omega) _
      rw [Value.reread_array, ← hclose, tokensOf, List.cons_append, List.cons_append,
        State.run?_cons_of_step? hopen, List.append_assoc, List.singleton_append]
      cases items with
      | nil => rfl
      | cons v vs =>
          obtain ⟨us, hus⟩ :
              ∃ us, tokensOfItems (v :: vs) ++ .closeArray :: ts = tokensOf v ++ us := by
            cases vs with
            | nil => exact ⟨.closeArray :: ts, rfl⟩
            | cons w vs => exact ⟨_, List.append_assoc (tokensOf v) _ _⟩
          rw [hus, run?_itemOrEnd, ← hus, run?_tokensOfItems hdepth vs v [] ih]
          rfl
  | @object depth fields _ ih =>
      intro stack ts hdepth
      have hopen : State.step? ⟨stack, .item⟩ .openObject =
          some ⟨.object [] "" true :: stack, .nameOrEnd⟩ := rfl
      have hclose : close stack (.object (fields.map fun f => (f.1, f.2.reread))) =
          give (.object (fields.map fun f => (f.1, f.2.reread))) stack := close_of_lt (by omega) _
      rw [Value.reread_object, ← hclose, tokensOf, List.cons_append, List.cons_append,
        State.run?_cons_of_step? hopen, List.append_assoc, List.singleton_append]
      cases fields with
      | nil => rfl
      | cons f fs =>
          obtain ⟨us, hus⟩ : ∃ us, tokensOfFields (f :: fs) ++ .closeObject :: ts =
              .text (some f.1) :: us := by
            cases fs with
            | nil => exact ⟨_, rfl⟩
            | cons e fs => exact ⟨_, rfl⟩
          have hname :
              State.run? ⟨.object [] "" true :: stack, .nameOrEnd⟩ (.text (some f.1) :: us) =
                State.run? ⟨.object [] "" true :: stack, .name⟩ (.text (some f.1) :: us) := rfl
          rw [hus, hname, ← hus, run?_tokensOfFields hdepth fs f [] "" ih]
          rfl

/-! ## Printed values -/

theorem read?_of_spells {v : Value} (h : v.Fits maxDepth) {cs : List Char}
    (hcs : Spells cs (tokensOf v)) : read? cs = some v.reread := by
  have hrun := run?_tokensOf h [] [] (by rw [List.length_nil, Nat.zero_add])
  rw [List.append_nil] at hrun
  rw [read?, tokens?_of_spells hcs]
  dsimp only
  rw [ofTokens?, hrun]
  rfl

/-- A value without white space is read back. -/
theorem read?_compact {v : Value} (h : v.Fits maxDepth) :
    read? (compact v).toList = some v.reread := by
  simpa [compact] using read?_of_spells h (spells_compactChars h)

/-- A value with one item or field a line is read back. -/
theorem read?_pretty {v : Value} (h : v.Fits maxDepth) :
    read? (pretty v).toList = some v.reread := by
  simpa [pretty] using read?_of_spells h (spells_prettyChars h 0)

end Json
end TreeLint
