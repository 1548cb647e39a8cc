import Mathlib.Data.List.Infix
import TreeLint.Proofs.Rule.Message
import TreeLint.Rule.Catalogue

/-!
# Filling all slots at once

The slots of a message are filled one after another, each time in the whole message. Where every
opening brace of a template starts a slot, the template is a row of texts and slots, and filling a
slot by a text without opening braces gives such a row again. So no argument starts, completes or
changes a slot, and the outcome is that of filling all slots at once. Closing braces do not matter.

**Results.**
* `OpensSlots`, `opensSlots_iff`: templates as rows of texts and slots.
* `opensSlots_of_mem_catalogue`: the messages of the rules are templates.
* `eq_of_slot_isPrefix`: slots of different numbers are told apart.
* `replace_spelled`: filling the slot of one number, as a step on the row.
* `fillFrom_spelled`: filling the slots from a number on.
* `fill_at_once`: the message of a template.
-/

namespace TreeLint
namespace Rule

open Text

/-! ## Slots -/

/-- Behind its first character a slot has no opening brace. -/
theorem notMem_slot_tail (i : Nat) : '\x7b' ∉ Nat.toDigits 10 i ++ ['\x7d'] := by
  rw [List.mem_append, not_or]
  refine ⟨fun h => ?_, by decide⟩
  exact absurd (Nat.isDigit_of_mem_toDigits (by decide) (by decide) h) (by decide)

/-- The number of a slot ends at its closing brace. -/
theorem takeWhile_isDigit_slot_tail (i : Nat) (rest : List Char) :
    (Nat.toDigits 10 i ++ '\x7d' :: rest).takeWhile Char.isDigit = Nat.toDigits 10 i := by
  have hdigits : ∀ c ∈ Nat.toDigits 10 i, c.isDigit = true :=
    fun c => Nat.isDigit_of_mem_toDigits (by decide) (by decide)
  rw [List.takeWhile_append_of_pos hdigits, List.takeWhile_cons_of_neg (by decide),
    List.append_nil]

theorem eq_of_slot_isPrefix {i n : Nat} {rest : List Char} (h : slot n <+: slot i ++ rest) :
    n = i := by
  obtain ⟨more, hmore⟩ := h
  have htails : Nat.toDigits 10 n ++ '\x7d' :: more = Nat.toDigits 10 i ++ '\x7d' :: rest := by
    simpa [slot] using hmore
  have hdigits : Nat.toDigits 10 n = Nat.toDigits 10 i := by
    rw [← takeWhile_isDigit_slot_tail n more, htails, takeWhile_isDigit_slot_tail]
  calc
    n = Nat.ofDigitChars 10 (Nat.toDigits 10 n) 0 := Nat.ofDigitChars_ten_toDigits.symm
    _ = Nat.ofDigitChars 10 (Nat.toDigits 10 i) 0 := by rw [hdigits]
    _ = i := Nat.ofDigitChars_ten_toDigits

/-! ## Texts whose opening braces start slots -/

/-- Every opening brace of a text starts a slot. -/
def OpensSlots (cs : List Char) : Prop :=
  ∀ rest, '\x7b' :: rest <:+ cs → ∃ i, slot i <+: '\x7b' :: rest

theorem opensSlots_nil : OpensSlots [] :=
  fun _ h => absurd (List.suffix_nil.mp h) (List.cons_ne_nil _ _)

theorem opensSlots_cons {c : Char} {cs : List Char} :
    OpensSlots (c :: cs) ↔ (c = '\x7b' → ∃ i, slot i <+: c :: cs) ∧ OpensSlots cs := by
  constructor
  · intro h
    refine ⟨?_, fun rest hrest => h rest (hrest.trans (List.suffix_cons c cs))⟩
    rintro rfl
    exact h cs List.suffix_rfl
  · rintro ⟨hc, h⟩ rest hrest
    rcases List.suffix_cons_iff.mp hrest with heq | hrest
    · rw [heq]
      exact hc (List.head_eq_of_cons_eq heq).symm
    · exact h rest hrest

/-- A text without opening braces may stand in front. -/
theorem opensSlots_append {as cs : List Char} (has : '\x7b' ∉ as) :
    OpensSlots (as ++ cs) ↔ OpensSlots cs := by
  induction as with
  | nil => rfl
  | cons a as ih =>
      rw [List.mem_cons, not_or] at has
      simpa [opensSlots_cons, ih has.2] using and_iff_right fun ha => absurd ha.symm has.1

/-- A slot may stand in front. -/
theorem opensSlots_slot_append (i : Nat) {cs : List Char} :
    OpensSlots (slot i ++ cs) ↔ OpensSlots cs := by
  have hstart : ∃ j, slot j <+: slot i ++ cs := ⟨i, List.prefix_append _ _⟩
  calc
    OpensSlots (slot i ++ cs)
        ↔ OpensSlots (Nat.toDigits 10 i ++ ['\x7d'] ++ cs) :=
          opensSlots_cons.trans (and_iff_right fun _ => hstart)
    _ ↔ OpensSlots cs := opensSlots_append (notMem_slot_tail i)

/-! ## Rows of texts and slots -/

/-- A part of a template. -/
inductive Part where
  | text (cs : List Char)
  | slot (i : Nat)
deriving DecidableEq, Repr

namespace Part

/-- A part as it is written. -/
def spelled : Part → List Char
  | text cs => cs
  | slot i => Rule.slot i

/-- Whether a part has no opening brace but that of a slot. -/
def opensOnlySlot : Part → Prop
  | text cs => '\x7b' ∉ cs
  | slot _ => True

instance : DecidablePred opensOnlySlot
  | text cs => inferInstanceAs (Decidable ('\x7b' ∉ cs))
  | slot _ => inferInstanceAs (Decidable True)

/-- A part with all arguments put in; a slot without an argument stays as it is. -/
def filled (arg? : Nat → Option (List Char)) : Part → List Char
  | text cs => cs
  | slot i => (arg? i).getD (Rule.slot i)

/-- A part after the slot of one number was filled. -/
def put (n : Nat) (arg : List Char) : Part → Part
  | text cs => text cs
  | slot i => if i = n then text arg else slot i

theorem opensOnlySlot_put {n : Nat} {arg : List Char} (harg : '\x7b' ∉ arg) {p : Part}
    (h : p.opensOnlySlot) : (p.put n arg).opensOnlySlot := by
  cases p with
  | text cs => exact h
  | slot i =>
      rw [put]
      split
      · exact harg
      · trivial

end Part

/-- A row of texts and slots whose texts have no opening brace. -/
structure Template where
  parts : List Part
  opensOnlySlots : ∀ p ∈ parts, p.opensOnlySlot

namespace Template

/-- The text of a template. -/
def spelled (t : Template) : List Char :=
  t.parts.flatMap Part.spelled

/-- A template with all arguments put in at once. -/
def filled (t : Template) (arg? : Nat → Option (List Char)) : List Char :=
  t.parts.flatMap (Part.filled arg?)

/-- A template after the slots of one number were filled. -/
def put (t : Template) (n : Nat) (arg : List Char) (harg : '\x7b' ∉ arg) : Template where
  parts := t.parts.map (Part.put n arg)
  opensOnlySlots := by
    intro p hp
    obtain ⟨q, hq, rfl⟩ := List.mem_map.mp hp
    exact Part.opensOnlySlot_put harg (t.opensOnlySlots q hq)

/-- A template with a part in front. -/
def cons (p : Part) (hp : p.opensOnlySlot) (t : Template) : Template :=
  ⟨p :: t.parts, List.forall_mem_cons.mpr ⟨hp, t.opensOnlySlots⟩⟩

end Template

/-- The texts of templates are those whose opening braces start slots. -/
theorem opensSlots_iff {cs : List Char} : OpensSlots cs ↔ ∃ t : Template, t.spelled = cs := by
  constructor
  · intro h
    -- by the length of the text: what stands behind its first slot is shorter
    induction hlength : cs.length using Nat.strong_induction_on generalizing cs with
    | _ length ih =>
        subst hlength
        by_cases hmem : '\x7b' ∈ cs
        · obtain ⟨before, rest, rfl, hbefore⟩ := List.eq_append_cons_of_mem hmem
          obtain ⟨i, more, hslot⟩ := h rest (List.suffix_append before _)
          rw [← hslot] at h ih ⊢
          rw [opensSlots_append hbefore, opensSlots_slot_append] at h
          have hshorter : more.length < (before ++ (slot i ++ more)).length := by
            simp only [slot, List.length_append, List.length_cons]
            omega
          obtain ⟨t, rfl⟩ := ih more.length hshorter h rfl
          exact ⟨.cons (.text before) hbefore (.cons (.slot i) trivial t), rfl⟩
        · exact ⟨⟨[.text cs], List.forall_mem_singleton.mpr hmem⟩, List.append_nil cs⟩
  · rintro ⟨⟨parts, hparts⟩, rfl⟩
    induction parts with
    | nil => exact opensSlots_nil
    | cons p parts ih =>
        obtain ⟨hp, hrest⟩ := List.forall_mem_cons.mp hparts
        cases p with
        | text cs => exact (opensSlots_append hp).mpr (ih hrest)
        | slot i => exact (opensSlots_slot_append i).mpr (ih hrest)

/-- The messages of all rules are templates. -/
theorem opensSlots_of_mem_catalogue {d : Descriptor} (h : d ∈ catalogue) :
    OpensSlots d.message.toList := by
  have hplain : ∀ cs : List Char, '\x7b' ∉ cs → OpensSlots cs :=
    fun cs hcs => opensSlots_iff.mpr ⟨⟨[.text cs], List.forall_mem_singleton.mpr hcs⟩,
      List.append_nil cs⟩
  simp only [catalogue, List.mem_cons, List.not_mem_nil, or_false] at h
  rcases h with rfl | rfl | rfl | rfl | rfl
  · exact opensSlots_iff.mpr ⟨⟨[.slot 0], by decide⟩, rfl⟩
  · exact opensSlots_iff.mpr ⟨⟨[.text "Do not update the loop counter '".toList, .slot 0,
      .text "' within the loop body.".toList], by decide +kernel⟩, by decide +kernel⟩
  · exact opensSlots_iff.mpr ⟨⟨[.text "Reduce the number of generic parameters in the '".toList,
      .slot 0, .text "' ".toList, .slot 1, .text " to no more than the ".toList, .slot 2,
      .text " authorized.".toList], by decide +kernel⟩, by decide +kernel⟩
  · exact hplain _ (by decide +kernel)
  · exact hplain _ (by decide +kernel)

/-! ## Filling -/

section Put

variable {n : Nat} {arg : List Char}

/-- A slot of another number stays. -/
theorem replaceAfter_slot_append {i : Nat} (hi : i ≠ n) (rest : List Char) :
    replaceAfter (slot n) arg 0 (slot i ++ rest) =
      slot i ++ replaceAfter (slot n) arg 0 rest := by
  have hstart : ¬(slot n).isPrefixOf (slot i ++ rest) = true := by
    intro h
    exact hi (eq_of_slot_isPrefix (List.isPrefixOf_iff_prefix.mp h)).symm
  calc
    replaceAfter (slot n) arg 0 (slot i ++ rest)
        = '\x7b' :: replaceAfter (slot n) arg 0 (Nat.toDigits 10 i ++ ['\x7d'] ++ rest) :=
          if_neg hstart
    _ = slot i ++ replaceAfter (slot n) arg 0 rest :=
          congrArg _ (replaceAfter_append_of_notMem (notMem_slot_tail i) rest)

/-- One part is filled, whatever follows it. -/
theorem replaceAfter_spelled_append {p : Part} (hp : p.opensOnlySlot) (rest : List Char) :
    replaceAfter (slot n) arg 0 (p.spelled ++ rest) =
      (p.put n arg).spelled ++ replaceAfter (slot n) arg 0 rest := by
  cases p with
  | text cs => exact replaceAfter_append_of_notMem hp rest
  | slot i =>
      by_cases hi : i = n
      · subst hi
        rw [Part.put, if_pos rfl]
        exact replaceAfter_piece_append rest
      · rw [Part.put, if_neg hi]
        exact replaceAfter_slot_append hi rest

/-- Filling the slot of one number turns a template into another one. -/
theorem replace_spelled (harg : '\x7b' ∉ arg) (t : Template) :
    replace (slot n) arg t.spelled = (t.put n arg harg).spelled := by
  obtain ⟨parts, hparts⟩ := t
  rw [replace]
  induction parts with
  | nil => rfl
  | cons p parts ih =>
      obtain ⟨hp, hrest⟩ := List.forall_mem_cons.mp hparts
      calc
        replaceAfter (slot n) arg 0 (p.spelled ++ parts.flatMap Part.spelled)
            = (p.put n arg).spelled ++ replaceAfter (slot n) arg 0 (parts.flatMap Part.spelled) :=
              replaceAfter_spelled_append hp _
        _ = (p.put n arg).spelled ++ (parts.map (Part.put n arg)).flatMap Part.spelled :=
              congrArg _ (ih hrest)

end Put

/-- The arguments by their numbers, where the first one has the number `n`. -/
def argsFrom (n : Nat) (args : List (List Char)) (i : Nat) : Option (List Char) :=
  if n ≤ i then args[i - n]? else none

/-- The first argument goes where its slot is, the others follow. -/
theorem filled_argsFrom_cons (n : Nat) (arg : List Char) (args : List (List Char)) (p : Part) :
    p.filled (argsFrom n (arg :: args)) = (p.put n arg).filled (argsFrom (n + 1) args) := by
  cases p with
  | text cs => rfl
  | slot i =>
      rw [Part.put]
      split
      · next hi =>
          subst hi
          simp [Part.filled, argsFrom]
      · next hi =>
          have hsame : argsFrom n (arg :: args) i = argsFrom (n + 1) args i := by
            rw [argsFrom, argsFrom]
            by_cases hlt : n + 1 ≤ i
            · have hsub : i - n = (i - (n + 1)) + 1 := by omega
              rw [if_pos hlt, if_pos (by omega), hsub, List.getElem?_cons_succ]
            · rw [if_neg hlt, if_neg (by omega)]
          rw [Part.filled, Part.filled, hsame]

/-- Filling the slots from a number on is filling them all at once. -/
theorem fillFrom_spelled (n : Nat) {args : List (List Char)} (hargs : ∀ arg ∈ args, '\x7b' ∉ arg)
    (t : Template) : fillFrom n args t.spelled = t.filled (argsFrom n args) := by
  induction args generalizing n t with
  | nil =>
      have hfilled : ∀ p : Part, p.filled (argsFrom n []) = p.spelled := by
        rintro (cs | i)
        · rfl
        · simp [Part.filled, Part.spelled, argsFrom]
      rw [fillFrom, Template.spelled, Template.filled]
      exact congrArg (t.parts.flatMap ·) (funext fun p => (hfilled p).symm)
  | cons arg args ih =>
      obtain ⟨harg, hargs⟩ := List.forall_mem_cons.mp hargs
      rw [fillFrom, replace_spelled harg, ih (n + 1) hargs, Template.filled, Template.filled,
        Template.put, List.flatMap_map]
      exact congrArg (t.parts.flatMap ·) (funext fun p => (filled_argsFrom_cons n arg args p).symm)

/-- The arguments of a template go into its slots all at once, where every opening brace of the
template starts a slot and the arguments have none. -/
theorem fill_at_once {template : String} {args : List String}
    (htemplate : OpensSlots template.toList) (hargs : ∀ arg ∈ args, '\x7b' ∉ arg.toList) :
    (∃ t : Template, t.spelled = template.toList) ∧
      ∀ t : Template, t.spelled = template.toList →
        (fill template args).toList = t.filled fun i => args[i]?.map String.toList := by
  refine ⟨opensSlots_iff.mp htemplate, ?_⟩
  intro t ht
  have hclean : ∀ arg ∈ args.map String.toList, '\x7b' ∉ arg := by
    intro arg harg
    obtain ⟨s, hs, rfl⟩ := List.mem_map.mp harg
    exact hargs s hs
  have hnumbers : argsFrom 0 (args.map String.toList) = fun i => args[i]?.map String.toList := by
    funext i
    simp [argsFrom]
  rw [fill, String.toList_ofList, ← ht, fillFrom_spelled 0 hclean t, hnumbers]

/-- Numbers of two digits, a slot that occurs twice, one without an argument, and a closing brace
of its own. -/
theorem fill_at_once_digits :
    fill "\x7b11\x7d-\x7b1\x7d\x7b1\x7d\x7d\x7b12\x7d" (List.replicate 11 "a" ++ ["b"]) =
      "b-aa\x7d\x7b12\x7d" := by
  have hparts : ∀ p ∈ [Part.slot 11, .text ['-'], .slot 1, .slot 1, .text ['\x7d'], .slot 12],
      p.opensOnlySlot := by
    decide
  have htemplate : Template.spelled ⟨_, hparts⟩ =
      "\x7b11\x7d-\x7b1\x7d\x7b1\x7d\x7d\x7b12\x7d".toList := by
    rfl
  have hargs : ∀ arg ∈ List.replicate 11 "a" ++ ["b"], '\x7b' ∉ arg.toList := by
    decide
  have hfill := (fill_at_once (opensSlots_iff.mpr ⟨_, htemplate⟩) hargs).2 _ htemplate
  rw [← String.toList_inj, hfill]
  rfl

end Rule
end TreeLint
