import Mathlib.Data.List.Basic
import Mathlib.Data.List.TakeWhile
import Mathlib.Tactic.SplitIfs
import TreeLint.Json.Printer
import TreeLint.Json.Token

/-!
# The tokens of printed values

The automaton that cuts a text into tokens goes back to its starting point behind every token. So
the tokens of a text are put together from those of its pieces, as long as no literal or number is
followed by one of its characters. In both layouts a value is printed with the same tokens, since
these differ only in white space.

**Results.**
* `Marks`, `Spells`: a piece of text gives tokens wherever it stands.
* `marks_quote`: every string is read back from its quotation.
* `spells_natural`: every natural number is read back as one token.
* `spells_compactChars`, `spells_prettyChars`: a value has the same tokens in both layouts.
-/

namespace TreeLint
namespace Json

/-! ## Pieces of text -/

/-- A text that does not go on with a character of a literal or number. -/
def Breaks (rest : List Char) : Prop :=
  ∀ c ∈ rest.head?, isWordPart c = false

/-- A piece that gives tokens wherever it stands between tokens. -/
def Marks (cs : List Char) (ts : List Token) : Prop :=
  ∀ rest, lex .between (cs ++ rest) = (lex .between rest).map (ts ++ ·)

/-- A piece that gives tokens if a literal or number at its end is not carried on behind it. -/
def Spells (cs : List Char) (ts : List Token) : Prop :=
  ∀ rest, Breaks rest → lex .between (cs ++ rest) = (lex .between rest).map (ts ++ ·)

theorem breaks_nil : Breaks [] := by
  intro c hc
  cases hc

theorem breaks_cons {c : Char} (h : isWordPart c = false) (rest : List Char) :
    Breaks (c :: rest) := by
  intro d hd
  rwa [← Option.some.inj hd]

section Pieces

variable {cs ds : List Char} {ts us : List Token} {c : Char}

theorem Marks.spells (h : Marks cs ts) : Spells cs ts :=
  fun rest _ => h rest

theorem marks_nil : Marks [] [] := by
  intro rest
  simp

theorem Marks.append (h : Marks cs ts) (k : Marks ds us) : Marks (cs ++ ds) (ts ++ us) := by
  intro rest
  rw [List.append_assoc, h, k, Option.map_map]
  simp [Function.comp_def]

theorem Marks.append_spells (h : Marks cs ts) (k : Spells ds us) :
    Spells (cs ++ ds) (ts ++ us) := by
  intro rest hrest
  rw [List.append_assoc, h, k rest hrest, Option.map_map]
  simp [Function.comp_def]

/-- A literal or number ends where another token starts. -/
theorem Spells.append_marks (h : Spells cs ts) (k : Marks (c :: ds) us)
    (hc : isWordPart c = false) : Marks (cs ++ c :: ds) (ts ++ us) := by
  intro rest
  rw [List.append_assoc, h (c :: ds ++ rest) (breaks_cons hc (ds ++ rest)), k, Option.map_map]
  simp [Function.comp_def]

theorem marks_of_begin? (h : begin? c = some (ts, .between)) : Marks [c] ts := by
  intro rest
  simp [lex, Mode.step?, h]

/-- White space gives no tokens. -/
theorem marks_newLine (level : Nat) : Marks (newLine level) [] := by
  have hline : Marks ['\n'] [] := marks_of_begin? rfl
  have hblanks : ∀ n, Marks (List.replicate n ' ') [] := by
    intro n
    induction n with
    | zero => exact marks_nil
    | succ n ih =>
        rw [List.replicate_succ]
        exact (marks_of_begin? (c := ' ') rfl).append ih
  exact hline.append (hblanks (2 * level))

end Pieces

/-! ## Strings -/

theorem lex_cons_of_step? {mode next : Mode} {c : Char} (h : mode.step? c = some ([], next))
    (cs : List Char) : lex mode (c :: cs) = lex next cs := by
  rw [lex, h]
  simp

/-- An item that stands for a character: the character itself, or its code unit if it is a control
character. -/
def TextItem.StandsFor (item : TextItem) (c : Char) : Prop :=
  item = .char c ∨ item = .unit c.toNat ∧ c.toNat < 0x20

theorem itemsText?_cons {item : TextItem} {c : Char} (h : item.StandsFor c)
    (items : List TextItem) : itemsText? (item :: items) = (itemsText? items).map (c :: ·) := by
  rcases h with rfl | ⟨rfl, hc⟩
  · rw [itemsText?]
  · have hhigh : isHighUnit c.toNat = false := by
      simp [isHighUnit]
      omega
    have hlow : isLowUnit c.toNat = false := by
      simp [isLowUnit]
      omega
    cases items with
    | nil => simp [itemsText?, hhigh, hlow]
    | cons other items =>
        cases other with
        | char d => simp [itemsText?, hhigh, hlow]
        | unit m => simp [itemsText?, hhigh, hlow]

theorem hexValue?_hexChar {n : Nat} (h : n < 16) : Text.hexValue? (hexChar n) = some n := by
  have hall : ∀ n < 16, Text.hexValue? (hexChar n) = some n := by
    decide
  exact hall n h

/-- An escaped character is read as one item. -/
theorem lex_escapeChar (c : Char) :
    ∃ item : TextItem, item.StandsFor c ∧
      ∀ seen rest, lex (.text seen) (escapeChar c ++ rest) = lex (.text (item :: seen)) rest := by
  have hescaped : ∀ x, escapedChar? x = some c → x ≠ 'u' →
      ∃ item : TextItem, item.StandsFor c ∧
        ∀ seen rest, lex (.text seen) (['\\', x] ++ rest) = lex (.text (item :: seen)) rest := by
    intro x hx hne
    refine ⟨.char c, .inl rfl, ?_⟩
    intro seen rest
    have hescape : Mode.step? (.text seen) '\\' = some ([], .escape seen) := rfl
    have hletter : Mode.step? (.escape seen) x = some ([], .text (.char c :: seen)) := by
      rw [Mode.step?, if_neg hne, hx]
      rfl
    simp [lex_cons_of_step? hescape, lex_cons_of_step? hletter]
  unfold escapeChar
  split_ifs with hquote hbackslash hback hfeed hline hreturn htab hcontrol
  · exact hescaped '"' (by rw [hquote]; rfl) (by decide)
  · exact hescaped '\\' (by rw [hbackslash]; rfl) (by decide)
  · exact hescaped 'b' (by rw [hback]; rfl) (by decide)
  · exact hescaped 'f' (by rw [hfeed]; rfl) (by decide)
  · exact hescaped 'n' (by rw [hline]; rfl) (by decide)
  · exact hescaped 'r' (by rw [hreturn]; rfl) (by decide)
  · exact hescaped 't' (by rw [htab]; rfl) (by decide)
  · refine ⟨.unit c.toNat, .inr ⟨rfl, hcontrol⟩, ?_⟩
    intro seen rest
    have hhigh : Mode.step? (.unit seen 2 0) (hexChar (c.toNat / 16)) =
        some ([], .unit seen 3 (c.toNat / 16)) := by
      rw [Mode.step?, hexValue?_hexChar (by omega)]
      simp
    have hlow : Mode.step? (.unit seen 3 (c.toNat / 16)) (hexChar (c.toNat % 16)) =
        some ([], .text (.unit c.toNat :: seen)) := by
      simp [Mode.step?, hexValue?_hexChar (Nat.mod_lt _ (by decide)), Nat.div_add_mod']
    have hescape : Mode.step? (.text seen) '\\' = some ([], .escape seen) := rfl
    have hletter : Mode.step? (.escape seen) 'u' = some ([], .unit seen 0 0) := rfl
    have hfirst : Mode.step? (.unit seen 0 0) '0' = some ([], .unit seen 1 0) := rfl
    have hsecond : Mode.step? (.unit seen 1 0) '0' = some ([], .unit seen 2 0) := rfl
    simp only [List.cons_append, List.nil_append]
    rw [lex_cons_of_step? hescape, lex_cons_of_step? hletter, lex_cons_of_step? hfirst,
      lex_cons_of_step? hsecond, lex_cons_of_step? hhigh, lex_cons_of_step? hlow]
  · refine ⟨.char c, .inl rfl, ?_⟩
    intro seen rest
    have hplain : Mode.step? (.text seen) c = some ([], .text (.char c :: seen)) := by
      rw [Mode.step?, if_neg hquote, if_neg hbackslash, if_neg hcontrol]
    rw [List.singleton_append, lex_cons_of_step? hplain]

/-- The characters between quotation marks are read as items that stand for the text. -/
theorem lex_flatMap_escapeChar (cs : List Char) :
    ∃ items, itemsText? items = some cs ∧
      ∀ seen rest, lex (.text seen) (cs.flatMap escapeChar ++ rest) =
        lex (.text (items.reverse ++ seen)) rest := by
  induction cs with
  | nil => exact ⟨[], rfl, fun _ _ => rfl⟩
  | cons c cs ih =>
      obtain ⟨items, htext, hlex⟩ := ih
      obtain ⟨item, hitem, hstep⟩ := lex_escapeChar c
      refine ⟨item :: items, ?_, ?_⟩
      · rw [itemsText?_cons hitem, htext]
        rfl
      · intro seen rest
        simp [hstep, hlex]

/-- A quoted string is one token with that text. -/
theorem marks_quote (s : String) : Marks (quote s) [.text (some s)] := by
  intro rest
  obtain ⟨items, htext, hlex⟩ := lex_flatMap_escapeChar s.toList
  have hopening : Mode.step? .between '"' = some ([], .text []) := rfl
  have hclosing : Mode.step? (.text (items.reverse ++ [])) '"' =
      some ([.text (some s)], .between) := by
    simp [Mode.step?, htext]
  rw [quote, List.cons_append, List.cons_append, List.append_assoc, lex_cons_of_step? hopening,
    hlex, List.singleton_append, lex, hclosing]

/-! ## Literals and numbers -/

theorem begin?_of_isWordPart {c : Char} (h : isWordPart c = true) :
    begin? c = some ([], .word [c]) := by
  have hne : ∀ d, isWordPart d = false → c ≠ d := by
    rintro d hd rfl
    rw [h] at hd
    cases hd
  have hspace : ¬isSpace c = true := by
    intro hspace
    simp only [isSpace, Bool.or_eq_true, decide_eq_true_eq] at hspace
    rcases hspace with ((h | h) | h) | h
    · exact hne ' ' rfl h
    · exact hne '\t' rfl h
    · exact hne '\n' rfl h
    · exact hne '\r' rfl h
  rw [begin?, if_neg hspace, if_neg (hne '[' rfl), if_neg (hne ']' rfl), if_neg (hne '\x7b' rfl),
    if_neg (hne '\x7d' rfl), if_neg (hne ',' rfl), if_neg (hne ':' rfl), if_neg (hne '"' rfl),
    if_pos h]

theorem lex_word_append {w : List Char} (hw : ∀ c ∈ w, isWordPart c = true) :
    ∀ seen rest, lex (.word seen) (w ++ rest) = lex (.word (w.reverse ++ seen)) rest := by
  induction w with
  | nil =>
      intro seen rest
      rfl
  | cons c w ih =>
      intro seen rest
      have hstep : Mode.step? (.word seen) c = some ([], .word (c :: seen)) := by
        rw [Mode.step?, if_pos (hw c List.mem_cons_self)]
      simp [lex_cons_of_step? hstep, ih (fun d hd => hw d (List.mem_cons_of_mem c hd))]

/-- A word is one token, which ends where something else starts. -/
theorem spells_of_wordToken? {w : List Char} {t : Token} (hne : w ≠ [])
    (hw : ∀ c ∈ w, isWordPart c = true) (ht : wordToken? w = some t) : Spells w [t] := by
  intro rest hrest
  obtain ⟨c, w, rfl⟩ := List.exists_cons_of_ne_nil hne
  have hstart : Mode.step? .between c = some ([], .word [c]) :=
    begin?_of_isWordPart (hw c List.mem_cons_self)
  have hseen : (w.reverse ++ [c]).reverse = c :: w := by
    simp
  rw [List.cons_append, lex_cons_of_step? hstart,
    lex_word_append fun d hd => hw d (List.mem_cons_of_mem c hd)]
  cases rest with
  | nil =>
      rw [lex, lex, Mode.finish?, Mode.finish?, hseen, ht]
      rfl
  | cons d rest =>
      have hend : isWordPart d = false := hrest d rfl
      rw [lex, lex, Mode.step?, Mode.step?, hend, hseen, ht]
      cases begin? d with
      | none => rfl
      | some started =>
          simp [Option.map_map, Function.comp_def]

theorem spells_null : Spells ['n', 'u', 'l', 'l'] [.scalar .null] :=
  spells_of_wordToken? (List.cons_ne_nil _ _) (List.all_eq_true.mp rfl) rfl

theorem spells_bool (b : Bool) : Spells (scalarText (.bool b)) [.scalar (.bool b)] := by
  cases b with
  | true => exact spells_of_wordToken? (List.cons_ne_nil _ _) (List.all_eq_true.mp rfl) rfl
  | false => exact spells_of_wordToken? (List.cons_ne_nil _ _) (List.all_eq_true.mp rfl) rfl

/-- The value that is read for the digits of a natural number: the number itself, if it is one of
64 bits. -/
def readNatural (n : Nat) : Value :=
  match NumberText.value? ⟨true, Nat.toDigits 10 n, none, none⟩ with
  | some m => .number m
  | none => .unusable

theorem isDigit_of_mem_toDigits {n : Nat} {c : Char} (h : c ∈ Nat.toDigits 10 n) :
    c.isDigit = true :=
  Nat.isDigit_of_mem_toDigits (by decide) (by decide) h

/-- Only the number zero is written with a zero in front. -/
theorem eq_zero_of_head?_toDigits (n : Nat) (h : (Nat.toDigits 10 n).head? = some '0') : n = 0 := by
  induction n using Nat.strongRecOn with
  | ind n ih =>
      rcases Nat.lt_or_ge n 10 with hlt | hge
      · rw [Nat.toDigits_of_lt_base hlt, List.head?_cons, Option.some.injEq] at h
        have hdigit : ∀ m < 10, Nat.digitChar m = '0' → m = 0 := by
          decide
        exact hdigit n hlt h
      · rw [Nat.toDigits_of_base_le (by decide) hge,
          List.head?_append_of_ne_nil _ Nat.toDigits_ne_nil] at h
        have hfirst := ih (n / 10) (by omega) h
        omega

theorem ofText?_toDigits (n : Nat) :
    NumberText.ofText? (Nat.toDigits 10 n) = some ⟨true, Nat.toDigits 10 n, none, none⟩ := by
  have hall : ∀ c ∈ Nat.toDigits 10 n, c.isDigit = true := fun c => isDigit_of_mem_toDigits
  cases hdigits : Nat.toDigits 10 n with
  | nil => exact absurd hdigits Nat.toDigits_ne_nil
  | cons c cs =>
      rw [hdigits] at hall
      have hminus : c ≠ '-' := by
        rintro rfl
        cases hall '-' List.mem_cons_self
      have hzero : c = '0' → cs = [] := by
        rintro rfl
        rw [eq_zero_of_head?_toDigits n (by rw [hdigits]; rfl), Nat.toDigits_zero] at hdigits
        exact (List.cons.inj hdigits).2.symm
      have hsome : someDigits (c :: cs) = some (c :: cs, []) := by
        rw [someDigits, List.takeWhile_eq_self_iff.mpr hall, List.dropWhile_eq_nil_iff.mpr hall]
      simpa [NumberText.ofText?, hminus, hsome, splitFraction, splitExponent] using hzero

theorem wordToken?_toDigits (n : Nat) :
    wordToken? (Nat.toDigits 10 n) = some (.scalar (readNatural n)) := by
  have hdigits : ∀ c ∈ Nat.toDigits 10 n, c.isDigit = true := fun c => isDigit_of_mem_toDigits
  have hword : ∀ c w, c.isDigit = false → Nat.toDigits 10 n ≠ c :: w := by
    intro c w hc heq
    have hdigit := hdigits c (by rw [heq]; exact List.mem_cons_self)
    rw [hc] at hdigit
    cases hdigit
  rw [wordToken?, if_neg (hword 'n' _ (by decide)), if_neg (hword 't' _ (by decide)),
    if_neg (hword 'f' _ (by decide)), ofText?_toDigits]
  rfl

/-- The digits of a natural number are one token. -/
theorem spells_natural (n : Nat) : Spells (Nat.toDigits 10 n) [.scalar (readNatural n)] := by
  refine spells_of_wordToken? Nat.toDigits_ne_nil ?_ (wordToken?_toDigits n)
  intro c hc
  simp [isWordPart, Char.isAlphanum, isDigit_of_mem_toDigits hc]

/-- Digits of a number of 64 bits make up their number. -/
theorem significandOf_eq {ds : List Char} :
    ∀ {acc : Nat}, Nat.ofDigitChars 10 ds acc ≤ maxNatural →
      significandOf acc ds = (Nat.ofDigitChars 10 ds acc, []) := by
  induction ds with
  | nil =>
      intro acc _
      rfl
  | cons d ds ih =>
      intro acc h
      rw [Nat.ofDigitChars_cons] at h
      have hstep : acc * 10 + digitValue d = 10 * acc + (d.toNat - '0'.toNat) := by
        rw [Nat.mul_comm]
        rfl
      have hle : 10 * acc + (d.toNat - '0'.toNat) ≤ maxNatural := by
        rw [Nat.ofDigitChars_eq_ofDigitChars_zero] at h
        have hpos : 0 < 10 ^ ds.length := Nat.pow_pos (by decide)
        have hmul := Nat.le_mul_of_pos_left (10 * acc + (d.toNat - '0'.toNat)) hpos
        omega
      rw [significandOf, hstep, if_pos hle, ih h, Nat.ofDigitChars_cons]

/-- A number of 64 bits is read as itself. -/
theorem readNatural_of_le {n : Nat} (h : n ≤ maxNatural) : readNatural n = .nat n := by
  have hle : Nat.ofDigitChars 10 (Nat.toDigits 10 n) 0 ≤ maxNatural := by
    simpa using h
  have hvalue : NumberText.value? ⟨true, Nat.toDigits 10 n, none, none⟩ = some (.natural n) := by
    simp [NumberText.value?, significandOf_eq hle]
  rw [readNatural, hvalue]
  rfl

/-! ## Printed values -/

mutual

/-- The tokens with which a value is printed. -/
def tokensOf : Value → List Token
  | .array items => .openArray :: tokensOfItems items ++ [.closeArray]
  | .object fields => .openObject :: tokensOfFields fields ++ [.closeObject]
  | .string s => [.text (some s)]
  | .number (.natural n) => [.scalar (readNatural n)]
  | v => [.scalar v]

def tokensOfItems : List Value → List Token
  | [] => []
  | [v] => tokensOf v
  | v :: rest => tokensOf v ++ .comma :: tokensOfItems rest

def tokensOfFields : List (String × Value) → List Token
  | [] => []
  | [(name, v)] => .text (some name) :: .colon :: tokensOf v
  | (name, v) :: rest =>
    .text (some name) :: .colon :: tokensOf v ++ .comma :: tokensOfFields rest

end

/-- A value without negative numbers and doubles that is not nested deeper than a bound. -/
inductive Value.Fits : Nat → Value → Prop
  | null {depth : Nat} : Fits depth .null
  | bool {depth : Nat} (b : Bool) : Fits depth (.bool b)
  | natural {depth : Nat} (n : Nat) : Fits depth (.nat n)
  | string {depth : Nat} (s : String) : Fits depth (.string s)
  | array {depth : Nat} {items : List Value} (h : ∀ v ∈ items, Fits depth v) :
      Fits (depth + 1) (.array items)
  | object {depth : Nat} {fields : List (String × Value)} (h : ∀ f ∈ fields, Fits depth f.2) :
      Fits (depth + 1) (.object fields)

namespace Value

@[simp] theorem fits_bool (depth : Nat) (b : Bool) : (Value.bool b).Fits depth :=
  .bool b

@[simp] theorem fits_nat (depth : Nat) (n : Nat) : (nat n).Fits depth :=
  .natural n

@[simp] theorem fits_string (depth : Nat) (s : String) : (Value.string s).Fits depth :=
  .string s

@[simp] theorem fits_array {depth : Nat} {items : List Value} :
    (array items).Fits (depth + 1) ↔ ∀ v ∈ items, v.Fits depth := by
  constructor
  · rintro ⟨⟩
    assumption
  · exact .array

@[simp] theorem fits_object {depth : Nat} {fields : List (String × Value)} :
    (object fields).Fits (depth + 1) ↔ ∀ f ∈ fields, f.2.Fits depth := by
  constructor
  · rintro ⟨⟩
    assumption
  · exact .object

end Value

/-- Pieces with commas between them have the tokens of the pieces with commas between them. -/
theorem spells_intercalate {α : Type} {f : α → List Char} {g : α → List Token} (l : List α)
    (h : ∀ a ∈ l, Spells (f a) (g a)) :
    Spells ([','].intercalate (l.map f)) ([.comma].intercalate (l.map g)) := by
  induction l with
  | nil => exact marks_nil.spells
  | cons a l ih =>
      have hfirst := h a List.mem_cons_self
      have hrest := ih fun b hb => h b (List.mem_cons_of_mem a hb)
      cases l with
      | nil =>
          simpa using hfirst
      | cons b l =>
          have hcomma : Marks [','] [.comma] := marks_of_begin? rfl
          simpa using (hfirst.append_marks hcomma rfl).append_spells hrest

/-- How a list is written that is put together from the pieces of its members. -/
theorem eq_intercalate {α β : Type} {write : List α → List β} {f : α → List β} {sep : β}
    (hnil : write [] = []) (hone : ∀ a, write [a] = f a)
    (hmore : ∀ a b l, write (a :: b :: l) = f a ++ sep :: write (b :: l)) (l : List α) :
    write l = [sep].intercalate (l.map f) := by
  induction l with
  | nil => exact hnil
  | cons a l ih =>
      cases l with
      | nil => simp [hone]
      | cons b l => simp [hmore, ih]

def compactField (f : String × Value) : List Char :=
  quote f.1 ++ ':' :: compactChars f.2

def prettyItem (level : Nat) (v : Value) : List Char :=
  newLine level ++ prettyChars level v

def prettyField (level : Nat) (f : String × Value) : List Char :=
  newLine level ++ quote f.1 ++ ':' :: ' ' :: prettyChars level f.2

def tokensOfField (f : String × Value) : List Token :=
  .text (some f.1) :: .colon :: tokensOf f.2

theorem compactItems_eq (items : List Value) :
    compactItems items = [','].intercalate (items.map compactChars) := by
  exact eq_intercalate rfl (fun _ => rfl) (fun _ _ _ => rfl) items

theorem compactFields_eq (fields : List (String × Value)) :
    compactFields fields = [','].intercalate (fields.map compactField) := by
  exact eq_intercalate rfl (fun _ => rfl) (fun _ _ _ => rfl) fields

theorem prettyItems_eq (level : Nat) (items : List Value) :
    prettyItems level items = [','].intercalate (items.map (prettyItem level)) := by
  exact eq_intercalate rfl (fun _ => rfl) (fun _ _ _ => rfl) items

theorem prettyFields_eq (level : Nat) (fields : List (String × Value)) :
    prettyFields level fields = [','].intercalate (fields.map (prettyField level)) := by
  exact eq_intercalate rfl (fun _ => rfl) (fun _ _ _ => rfl) fields

theorem tokensOfItems_eq (items : List Value) :
    tokensOfItems items = [.comma].intercalate (items.map tokensOf) := by
  exact eq_intercalate rfl (fun _ => rfl) (fun _ _ _ => rfl) items

theorem tokensOfFields_eq (fields : List (String × Value)) :
    tokensOfFields fields = [.comma].intercalate (fields.map tokensOfField) := by
  exact eq_intercalate rfl (fun _ => rfl) (fun _ _ _ => rfl) fields

/-- A value without white space has its tokens. -/
theorem spells_compactChars {depth : Nat} {v : Value} (h : v.Fits depth) :
    Spells (compactChars v) (tokensOf v) := by
  induction h with
  | null => exact spells_null
  | bool b => exact spells_bool b
  | natural n => exact spells_natural n
  | string s => exact (marks_quote s).spells
  | @array depth items _ ih =>
      have hitems : Spells (compactItems items) (tokensOfItems items) := by
        rw [compactItems_eq, tokensOfItems_eq]
        exact spells_intercalate items ih
      have hopening : Marks ['['] [.openArray] := marks_of_begin? rfl
      have hclosing : Marks [']'] [.closeArray] := marks_of_begin? rfl
      exact ((hopening.append_spells hitems).append_marks hclosing rfl).spells
  | @object depth fields _ ih =>
      have hfield : ∀ f ∈ fields, Spells (compactField f) (tokensOfField f) := by
        intro f hf
        have hcolon : Marks [':'] [.colon] := marks_of_begin? rfl
        exact (marks_quote f.1).append_spells (hcolon.append_spells (ih f hf))
      have hfields : Spells (compactFields fields) (tokensOfFields fields) := by
        rw [compactFields_eq, tokensOfFields_eq]
        exact spells_intercalate fields hfield
      have hopening : Marks ['\x7b'] [.openObject] := marks_of_begin? rfl
      have hclosing : Marks ['\x7d'] [.closeObject] := marks_of_begin? rfl
      exact ((hopening.append_spells hfields).append_marks hclosing rfl).spells

/-- A value with one item or field a line has its tokens. -/
theorem spells_prettyChars {depth : Nat} {v : Value} (h : v.Fits depth) :
    ∀ level, Spells (prettyChars level v) (tokensOf v) := by
  induction h with
  | null => exact fun _ => spells_null
  | bool b => exact fun _ => spells_bool b
  | natural n => exact fun _ => spells_natural n
  | string s => exact fun _ => (marks_quote s).spells
  | @array depth items _ ih =>
      intro level
      have hopening : Marks ['['] [.openArray] := marks_of_begin? rfl
      have hclosing : Marks [']'] [.closeArray] := marks_of_begin? rfl
      cases items with
      | nil => exact (hopening.append hclosing).spells
      | cons v items =>
          have hitem : ∀ w ∈ v :: items, Spells (prettyItem (level + 1) w) (tokensOf w) :=
            fun w hw => (marks_newLine _).append_spells (ih w hw (level + 1))
          have hitems :
              Spells (prettyItems (level + 1) (v :: items)) (tokensOfItems (v :: items)) := by
            rw [prettyItems_eq, tokensOfItems_eq]
            exact spells_intercalate _ hitem
          have hlines := (hopening.append_spells hitems).append_marks (marks_newLine level) rfl
          rw [List.append_nil] at hlines
          exact (hlines.append hclosing).spells
  | @object depth fields _ ih =>
      intro level
      have hopening : Marks ['\x7b'] [.openObject] := marks_of_begin? rfl
      have hclosing : Marks ['\x7d'] [.closeObject] := marks_of_begin? rfl
      cases fields with
      | nil => exact (hopening.append hclosing).spells
      | cons f fields =>
          have hfield :
              ∀ e ∈ f :: fields, Spells (prettyField (level + 1) e) (tokensOfField e) := by
            intro e he
            have hname := (marks_newLine (level + 1)).append (marks_quote e.1)
            have hcolon : Marks [':'] [.colon] := marks_of_begin? rfl
            have hblank : Marks [' '] [] := marks_of_begin? rfl
            exact hname.append_spells
              (hcolon.append_spells (hblank.append_spells (ih e he (level + 1))))
          have hfields : Spells (prettyFields (level + 1) (f :: fields))
              (tokensOfFields (f :: fields)) := by
            rw [prettyFields_eq, tokensOfFields_eq]
            exact spells_intercalate _ hfield
          have hlines := (hopening.append_spells hfields).append_marks (marks_newLine level) rfl
          rw [List.append_nil] at hlines
          exact (hlines.append hclosing).spells

theorem tokens?_of_spells {cs : List Char} {ts : List Token} (h : Spells cs ts) :
    tokens? cs = some ts := by
  have hlex := h [] breaks_nil
  rw [List.append_nil, lex, Mode.finish?] at hlex
  simp [tokens?, hlex]

end Json
end TreeLint
