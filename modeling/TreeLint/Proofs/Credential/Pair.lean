import Mathlib.Data.List.Forall2
import Mathlib.Data.List.TakeWhile
import TreeLint.Credential.WordSet
import TreeLint.Proofs.Text.Searching

/-!
# Pairs of a word and a value

A pair starts at a word boundary with a word of the set in any case. A sign follows, with white
space around it, and the value is what is left of the text, which has to be one line. A text is
judged by its leftmost pair, and where several words of the set have a pair there, by that of the
first one.

**Results.**
* `pairOf?_eq_some_iff`: what is read for one word at the front of a text.
* `pair?_eq_some_iff`: what is found in a text is its leftmost pair.
* `find_ne_nil_iff_leftmost`: when words are found, and when a pair with a secret is missed.
-/

namespace TreeLint
namespace Credential

open Text

namespace WordSet

variable {set : WordSet} {word seen rest after value cs : List Char} {p : Pair}

/-! ## One pair -/

/-- A text has white space only. -/
def IsGap (cs : List Char) : Prop :=
  ∀ c ∈ cs, isBlank c = true

/-- A text spells a word: letter by letter they are the same, regardless of case. -/
def Spells (word seen : List Char) : Prop :=
  List.Forall₂ (fun w c => sameLetter w c = true) word seen

/-- A sign that may stand between a word and a value. -/
def IsSign (c : Char) : Prop :=
  c = ':' ∨ c = '='

/-- A word and a sign at the front of a text: what spells the word, and what stands behind the
sign. -/
def Assigns (word rest seen after : List Char) : Prop :=
  Spells word seen ∧ ∃ gap sign, rest = seen ++ gap ++ sign :: after ∧ IsGap gap ∧ IsSign sign

/-- The value behind a sign: all that is left of the text, on one line. White space in front of it
is left out as long as something remains. -/
def Values (after value : List Char) : Prop :=
  value ≠ [] ∧ '\n' ∉ value ∧ (∀ c more, value = c :: more → isBlank c = true → more = []) ∧
    ∃ gap, after = gap ++ value ∧ IsGap gap

/-- A pair of a word at the front of a text. -/
def PairOf (word rest : List Char) (p : Pair) : Prop :=
  ∃ after, Assigns word rest p.word after ∧ Values after p.value

theorem isSign_iff {sign : Char} : (sign = ':' || sign = '=') = true ↔ IsSign sign := by
  simp [IsSign]

theorem IsSign.isBlank_eq_false {sign : Char} (h : IsSign sign) : isBlank sign = false := by
  rcases h with rfl | rfl <;> decide

theorem afterWord?_eq_some_iff :
    afterWord? word cs = some (seen, rest) ↔ cs = seen ++ rest ∧ Spells word seen := by
  induction word generalizing cs seen with
  | nil =>
      rw [afterWord?, Option.some_inj, Prod.mk.injEq, Spells, List.forall₂_nil_left_iff]
      constructor
      · rintro ⟨rfl, rfl⟩
        exact ⟨rfl, rfl⟩
      · rintro ⟨rfl, rfl⟩
        exact ⟨rfl, rfl⟩
  | cons w word ih =>
      rw [Spells, List.forall₂_cons_left_iff]
      cases cs with
      | nil =>
          rw [afterWord?]
          constructor
          · intro h
            cases h
          · rintro ⟨htext, c, seen, -, -, rfl⟩
            cases htext
      | cons c cs =>
          rw [afterWord?]
          constructor
          · intro h
            split at h
            · next hsame =>
                obtain ⟨⟨shown, tail⟩, hafter, hpair⟩ := Option.map_eq_some_iff.mp h
                cases hpair
                obtain ⟨rfl, hspells⟩ := ih.mp hafter
                exact ⟨rfl, c, shown, hsame, hspells, rfl⟩
            · cases h
          · rintro ⟨htext, d, shown, hsame, hspells, rfl⟩
            obtain ⟨rfl, hrest⟩ := List.cons_eq_cons.mp htext
            simp [hsame, ih.mpr ⟨hrest, hspells⟩]

theorem pairValue?_of_ne_nil (h : cs.dropWhile isBlank ≠ []) (hline : '\n' ∉ cs.dropWhile isBlank) :
    pairValue? cs = some (cs.dropWhile isBlank) := by
  rw [pairValue?]
  split
  · next hnil => exact absurd hnil h
  · next hcons => simp [hline, h]

theorem pairValue?_of_isGap {gap : List Char} (h : IsGap gap) {c : Char} (hc : isBlank c = true) :
    pairValue? (gap ++ [c]) = if c = '\n' then none else some [c] := by
  have hnil : (gap ++ [c]).dropWhile isBlank = [] := by
    rw [List.dropWhile_eq_nil_iff]
    intro d hd
    rcases List.mem_append.mp hd with hd | hd
    · exact h d hd
    · exact List.mem_singleton.mp hd ▸ hc
  rw [pairValue?, hnil]
  simp [eq_comm]

theorem values_dropWhile (h : cs.dropWhile isBlank ≠ []) (hline : '\n' ∉ cs.dropWhile isBlank) :
    Values cs (cs.dropWhile isBlank) := by
  refine ⟨h, hline, ?_, cs.takeWhile isBlank, List.takeWhile_append_dropWhile.symm,
    fun _ => List.mem_takeWhile_imp⟩
  intro c more hvalue hc
  have hhead := List.head_dropWhile_not isBlank h
  simp [hvalue, hc] at hhead

theorem values_last {gap : List Char} (h : IsGap gap) {c : Char} (hline : c ≠ '\n') :
    Values (gap ++ [c]) [c] := by
  refine ⟨List.cons_ne_nil _ _, by simpa [eq_comm] using hline, ?_, gap, rfl, h⟩
  intro d more hvalue _
  exact (List.cons_eq_cons.mp hvalue).2.symm

/-- What is read behind a sign. -/
theorem pairValue?_eq_some_iff : pairValue? after = some value ↔ Values after value := by
  constructor
  · intro h
    by_cases hnil : after.dropWhile isBlank = []
    · -- only white space: the value is its last character
      have hblank : IsGap after := List.dropWhile_eq_nil_iff.mp hnil
      rcases List.eq_nil_or_concat after with rfl | ⟨gap, c, rfl⟩
      · cases h
      · rw [List.concat_eq_append] at *
        have hgap : IsGap gap := fun d hd => hblank d (List.mem_append_left _ hd)
        rw [pairValue?_of_isGap hgap (hblank c (by simp))] at h
        split at h
        · cases h
        · next hline =>
            cases h
            exact values_last hgap hline
    · by_cases hline : '\n' ∈ after.dropWhile isBlank
      · rw [pairValue?] at h
        split at h
        · next heq => exact absurd heq hnil
        · simp [hline] at h
      · rw [pairValue?_of_ne_nil hnil hline] at h
        cases h
        exact values_dropWhile hnil hline
  · rintro ⟨hne, hline, hgreedy, gap, rfl, hgap⟩
    cases value with
    | nil => exact absurd rfl hne
    | cons c more =>
        cases hc : isBlank c with
        | true =>
            obtain rfl := hgreedy c more rfl hc
            rw [pairValue?_of_isGap hgap hc, if_neg]
            rintro rfl
            exact hline (List.mem_singleton_self _)
        | false =>
            have hdrop := dropWhile_run hgap hc more
            rw [← hdrop] at hne hline
            rw [pairValue?_of_ne_nil hne hline, hdrop]

/-- What is read for one word at the front of a text. -/
theorem pairOf?_eq_some_iff : pairOf? word rest = some p ↔ PairOf word rest p := by
  constructor
  · intro h
    rw [pairOf?, Option.bind_eq_bind, Option.bind_eq_some_iff] at h
    obtain ⟨⟨seen, behind⟩, hword, h⟩ := h
    obtain ⟨rfl, hspells⟩ := afterWord?_eq_some_iff.mp hword
    dsimp only at h
    split at h
    · next sign after hbehind =>
        split at h
        · next hsign =>
            obtain ⟨value, hvalue, rfl⟩ := Option.map_eq_some_iff.mp h
            refine ⟨after, ⟨hspells, behind.takeWhile isBlank, sign, ?_, ?_, isSign_iff.mp hsign⟩,
              pairValue?_eq_some_iff.mp hvalue⟩
            · rw [List.append_assoc, ← hbehind, List.takeWhile_append_dropWhile]
            · exact fun _ => List.mem_takeWhile_imp
        · cases h
    · cases h
  · rintro ⟨after, ⟨hspells, gap, sign, rfl, hgap, hsign⟩, hvalue⟩
    have hword : afterWord? word (p.word ++ gap ++ sign :: after) =
        some (p.word, gap ++ sign :: after) :=
      afterWord?_eq_some_iff.mpr ⟨List.append_assoc _ _ _, hspells⟩
    have hdrop := dropWhile_run hgap hsign.isBlank_eq_false after
    rw [pairOf?, hword, Option.bind_eq_bind, Option.bind_some]
    simp only [hdrop, isSign_iff.mpr hsign, if_true, pairValue?_eq_some_iff.mpr hvalue,
      Option.map_some]

/-! ## The leftmost pair -/

/-- A pair of the set starts a text, behind a given character: there is a word boundary, and it is
the pair of the first word of the set that has one. -/
def PairBehind (set : WordSet) (before : Option Char) (rest : List Char) (p : Pair) : Prop :=
  isWordBoundary before rest.head? = true ∧
    ∃ earlier word later, set.words = earlier ++ word :: later ∧ PairOf word rest p ∧
      ∀ w ∈ earlier, ∀ q, ¬ PairOf w rest q

/-- A pair of the set starts at a place of a text. -/
def PairAt (set : WordSet) (before rest : List Char) (p : Pair) : Prop :=
  set.PairBehind before.getLast? rest p

theorem not_pairOf_nil : ¬ PairOf word [] p := by
  rintro ⟨after, ⟨-, gap, sign, htext, -, -⟩, -⟩
  simp at htext

theorem findSome?_pairOf?_eq_some_iff :
    (set.words.findSome? fun w => pairOf? w rest) = some p ↔
      ∃ earlier word later, set.words = earlier ++ word :: later ∧ PairOf word rest p ∧
        ∀ w ∈ earlier, ∀ q, ¬ PairOf w rest q := by
  simp only [List.findSome?_eq_some_iff, pairOf?_eq_some_iff, Option.eq_none_iff_forall_ne_some,
    ne_eq]

/-- What is found behind a given character is the leftmost pair. -/
theorem pairFrom?_eq_some_iff {before : Option Char} :
    set.pairFrom? before cs = some p ↔
      Leftmost (fun front rest => set.PairBehind (front.getLast?.or before) rest) cs p := by
  induction cs generalizing before with
  | nil =>
      rw [leftmost_nil, pairFrom?]
      constructor
      · intro h
        cases h
      · rintro ⟨-, -, word, -, -, hpair, -⟩
        exact absurd hpair not_pairOf_nil
  | cons c cs ih =>
      have hhere : ∀ q, (if isWordBoundary before (some c) then
            set.words.findSome? fun w => pairOf? w (c :: cs) else none) = some q ↔
          set.PairBehind before (c :: cs) q := by
        intro q
        simp [findSome?_pairOf?_eq_some_iff, PairBehind]
      have hshift : (fun front rest => set.PairBehind ((c :: front).getLast?.or before) rest) =
          fun front rest => set.PairBehind (front.getLast?.or (some c)) rest := by
        funext front rest
        cases front with
        | nil => rfl
        | cons d front =>
            simp [List.getLast?_cons]
      rw [pairFrom?, Option.or_eq_some_iff, ih, leftmost_cons, hhere, hshift]
      simp only [Option.eq_none_iff_forall_ne_some, ne_eq, hhere, List.getLast?_nil, Option.none_or]

/-- What is found in a text is its leftmost pair. -/
theorem pair?_eq_some_iff : set.pair? value = some p ↔ Leftmost set.PairAt value p := by
  rw [pair?, pairFrom?_eq_some_iff]
  simp only [Option.or_none]
  rfl

/-! ## What is found -/

variable {name : List Char} {w : List Char}

/-- The words of a name that belong to the set. -/
theorem mem_inName_iff :
    w ∈ set.inName name ↔ ∃ part ∈ camelWords name, lower part = w ∧ set.has w = true := by
  rw [inName, mem_addNew, List.mem_filter, List.mem_map]
  simp [← and_assoc]

/-- The word told by a text, if its leftmost pair has a secret. -/
theorem mem_inValue_iff :
    w ∈ set.inValue value ↔
      ∃ p, Leftmost set.PairAt value p ∧ lacksSecret p.value = false ∧ w = lower p.word := by
  simp only [← pair?_eq_some_iff]
  rw [inValue]
  cases set.pair? value with
  | none => simp
  | some p => cases hlacks : lacksSecret p.value <;> simp [hlacks]

/-- A name is restated if one of its words in the set occurs in the value. -/
def Restates (set : WordSet) (name value : List Char) : Prop :=
  ∃ part ∈ camelWords name, set.has (lower part) = true ∧ lower part <:+: lower value

theorem find_of_restates (h : set.Restates name value) : set.find name value = [] := by
  obtain ⟨part, hpart, hhas, hoccurs⟩ := h
  have hmem : lower part ∈ set.inName name := mem_inName_iff.mpr ⟨part, hpart, rfl, hhas⟩
  have hrestated : occurs (lower part) (lower value) = true := occurs_iff_isInfix.mpr hoccurs
  rw [find]
  exact if_pos (List.any_eq_true.mpr ⟨lower part, hmem, hrestated⟩)

theorem find_of_not_restates (h : ¬ set.Restates name value) :
    set.find name value = addNew (set.inName name) (set.inValue value) := by
  rw [find]
  refine if_neg fun hany => h ?_
  obtain ⟨w, hw, hoccurs⟩ := List.any_eq_true.mp hany
  obtain ⟨part, hpart, rfl, hhas⟩ := mem_inName_iff.mp hw
  exact ⟨part, hpart, hhas, occurs_iff_isInfix.mp hoccurs⟩

/-- If the value does not restate the name, words are found just if the name has one of the set or
the leftmost pair of the value has a secret. -/
theorem find_ne_nil_iff (hname : ¬ set.Restates name value) :
    set.find name value ≠ [] ↔
      (∃ part ∈ camelWords name, set.has (lower part) = true) ∨
        ∃ p, Leftmost set.PairAt value p ∧ lacksSecret p.value = false := by
  rw [find_of_not_restates hname]
  constructor
  · intro hne
    obtain ⟨w, hw⟩ := List.exists_mem_of_ne_nil _ hne
    rcases (mem_addNew _ _).mp hw with hw | hw
    · obtain ⟨part, hpart, rfl, hhas⟩ := mem_inName_iff.mp hw
      exact .inl ⟨part, hpart, hhas⟩
    · obtain ⟨p, hleftmost, hsecret, -⟩ := mem_inValue_iff.mp hw
      exact .inr ⟨p, hleftmost, hsecret⟩
  · rintro (⟨part, hpart, hhas⟩ | ⟨p, hleftmost, hsecret⟩)
    · have hw : lower part ∈ set.inName name := mem_inName_iff.mpr ⟨part, hpart, rfl, hhas⟩
      exact List.ne_nil_of_mem ((mem_addNew _ (set.inValue value)).mpr (.inl hw))
    · have hw : lower p.word ∈ set.inValue value :=
        mem_inValue_iff.mpr ⟨p, hleftmost, hsecret, rfl⟩
      exact List.ne_nil_of_mem ((mem_addNew (set.inName name) _).mpr (.inr hw))

/-! ## Missed pairs -/

/-- A pair with a secret at a place of a text, with all the text from the secret on as its value:
behind a word boundary stand a word of the set and a sign, and the value up to the next separator or
line feed is, without white space around it, neither empty nor a placeholder. -/
structure SecretAt (set : WordSet) (before rest : List Char) (p : Pair) : Prop where
  boundary : isWordBoundary before.getLast? rest.head? = true
  assigned : ∃ word ∈ set.words, ∃ gap, Assigns word rest p.word (gap ++ p.value) ∧ IsGap gap
  bare : ∀ c ∈ p.value.head?, isBlank c = false
  secret : ∃ setting behind, p.value = setting ++ behind ∧
    (∀ c ∈ setting, c ≠ separator ∧ c ≠ '\n') ∧
    (∀ c ∈ behind.head?, c = separator ∨ c = '\n') ∧
    trim setting ≠ [] ∧ isPlaceholder (trim setting) = false

namespace SecretAt

variable {before : List Char}

theorem value_ne_nil (h : set.SecretAt before rest p) : p.value ≠ [] := by
  obtain ⟨setting, behind, hvalue, -, -, htrim, -⟩ := h.secret
  rw [hvalue]
  rintro hnil
  obtain ⟨rfl, -⟩ := List.append_eq_nil_iff.mp hnil
  exact htrim rfl

/-- On the last line, the first setting of the value is the secret. -/
theorem lacksSecret_eq_false (h : set.SecretAt before rest p) (hline : '\n' ∉ p.value) :
    lacksSecret p.value = false := by
  obtain ⟨setting, behind, hvalue, hsetting, hbehind, htrim, hplaceholder⟩ := h.secret
  have hmem : ∀ c ∈ setting, (c != separator) = true :=
    fun c hc => bne_iff_ne.mpr (hsetting c hc).1
  have htake : behind.takeWhile (· != separator) = [] := by
    cases behind with
    | nil => rfl
    | cons c behind =>
        have hne : c ≠ '\n' := by
          rintro rfl
          exact hline (by simp [hvalue])
        have hc : c = separator := (hbehind c rfl).resolve_right hne
        rw [List.takeWhile_cons_of_neg (by simp [hc])]
  have hfirst : firstSetting p.value = trim setting := by
    rw [firstSetting, hvalue, List.takeWhile_append_of_pos hmem, htake, List.append_nil]
  simpa [lacksSecret, hfirst, hplaceholder] using List.isEmpty_eq_false_iff.mpr htrim

/-- On the last line, a pair with a secret is read at its place, or that of an earlier word. -/
theorem exists_pairAt (h : set.SecretAt before rest p) (hline : '\n' ∉ p.value) :
    ∃ q, set.PairAt before rest q := by
  obtain ⟨word, hword, gap, hassigns, hgap⟩ := h.assigned
  have hgreedy : ∀ c more, p.value = c :: more → isBlank c = true → more = [] := by
    intro c more hvalue hc
    have hbare := h.bare c (by rw [hvalue, List.head?_cons, Option.mem_some])
    rw [hc] at hbare
    cases hbare
  have hpair : PairOf word rest p :=
    ⟨_, hassigns, h.value_ne_nil, hline, hgreedy, gap, rfl, hgap⟩
  cases hfind : set.words.findSome? fun w => pairOf? w rest with
  | none =>
      have hnone := List.findSome?_eq_none_iff.mp hfind word hword
      rw [pairOf?_eq_some_iff.mpr hpair] at hnone
      cases hnone
  | some q => exact ⟨q, h.boundary, findSome?_pairOf?_eq_some_iff.mp hfind⟩

end SecretAt

/-- If the value does not restate the name, words are found just if the name has one of the set or
the leftmost pair of the value has a secret. So a pair with a secret is missed only if a line feed
follows, or if another pair is leftmost and has no secret. -/
theorem find_ne_nil_iff_leftmost (hname : ¬ set.Restates name value) :
    (set.find name value ≠ [] ↔
        (∃ part ∈ camelWords name, set.has (lower part) = true) ∨
          ∃ p, Leftmost set.PairAt value p ∧ lacksSecret p.value = false) ∧
      ∀ p, Somewhere set.SecretAt value p → set.find name value = [] →
        '\n' ∈ p.value ∨
          ∃ q, q ≠ p ∧ Leftmost set.PairAt value q ∧ lacksSecret q.value = true := by
  refine ⟨find_ne_nil_iff hname, ?_⟩
  rintro p ⟨before, rest, htext, hp⟩ hmissed
  by_cases hline : '\n' ∈ p.value
  · exact .inl hline
  · obtain ⟨r, hr⟩ := hp.exists_pairAt hline
    have hsomewhere : Somewhere set.PairAt value r := ⟨before, rest, htext, hr⟩
    obtain ⟨q, hleftmost⟩ := hsomewhere.exists_leftmost
    have hlacks : lacksSecret q.value = true := by
      rw [← Bool.not_eq_false]
      exact fun hsecret => (find_ne_nil_iff hname).mpr (.inr ⟨q, hleftmost, hsecret⟩) hmissed
    refine .inr ⟨q, ?_, hleftmost, hlacks⟩
    rintro rfl
    rw [hp.lacksSecret_eq_false hline] at hlacks
    cases hlacks

theorem not_restates_connection (value : List Char) :
    ¬ standard.Restates "connection".toList value := by
  have hwords : ∀ part ∈ camelWords "connection".toList, standard.has (lower part) = false := by
    decide +kernel
  rintro ⟨part, hpart, hhas, -⟩
  rw [hwords part hpart] at hhas
  cases hhas

/-- A connection string whose only pair has a secret. -/
theorem find_ne_nil_iff_leftmost_connection :
    let value := "Server=db;Password=s3cr3t;".toList
    let p : Pair := ⟨"Password".toList, "s3cr3t;".toList⟩
    ¬ standard.Restates "connection".toList value ∧ Leftmost standard.PairAt value p ∧
      lacksSecret p.value = false ∧ standard.find "connection".toList value ≠ [] := by
  intro value p
  have hname := not_restates_connection value
  have hleftmost : Leftmost standard.PairAt value p := pair?_eq_some_iff.mp (by decide +kernel)
  have hsecret : lacksSecret p.value = false := by decide +kernel
  exact ⟨hname, hleftmost, hsecret,
    (find_ne_nil_iff_leftmost hname).1.mpr (.inr ⟨p, hleftmost, hsecret⟩)⟩

theorem secretAt_password {before behind : List Char}
    (hboundary : isWordBoundary before.getLast? (some 'p') = true)
    (hbehind : ∀ c ∈ behind.head?, c = separator ∨ c = '\n') :
    standard.SecretAt before ("password=s3cr3t".toList ++ behind)
      ⟨"password".toList, "s3cr3t".toList ++ behind⟩ := by
  have hspells : Spells "password".toList "password".toList :=
    List.forall₂_same.mpr fun c _ => beq_self_eq_true (fold c)
  have hsetting : "s3cr3t".toList.all (fun c => c != separator && c != '\n') = true := by
    decide +kernel
  exact
    { boundary := hboundary
      assigned := ⟨"password".toList, by decide +kernel, [],
        ⟨hspells, [], '=', rfl, List.forall_mem_nil _, .inr rfl⟩, List.forall_mem_nil _⟩
      bare := by
        intro c hc
        obtain rfl : 's' = c := Option.some_inj.mp hc
        decide
      secret := ⟨"s3cr3t".toList, behind, rfl,
        fun c hc => by simpa using List.all_eq_true.mp hsetting c hc, hbehind,
        by decide +kernel, by decide +kernel⟩ }

/-- A pair with a secret is missed behind a placeholder, and in front of a line feed. -/
theorem find_eq_nil_hidden :
    let hidden := "pwd=?;password=s3cr3t".toList
    let broken := "password=s3cr3t\n".toList
    (¬ standard.Restates "connection".toList hidden ∧
        Somewhere standard.SecretAt hidden ⟨"password".toList, "s3cr3t".toList⟩ ∧
        standard.find "connection".toList hidden = []) ∧
      ¬ standard.Restates "connection".toList broken ∧
        Somewhere standard.SecretAt broken ⟨"password".toList, "s3cr3t\n".toList⟩ ∧
        standard.find "connection".toList broken = [] := by
  intro hidden broken
  have hhidden : standard.SecretAt "pwd=?;".toList ("password=s3cr3t".toList ++ [])
      ⟨"password".toList, "s3cr3t".toList ++ []⟩ :=
    secretAt_password (by decide +kernel) (fun c hc => nomatch hc)
  have hbroken : standard.SecretAt [] ("password=s3cr3t".toList ++ ['\n'])
      ⟨"password".toList, "s3cr3t".toList ++ ['\n']⟩ :=
    secretAt_password (by decide +kernel) (fun c hc => .inr (Option.some_inj.mp hc).symm)
  exact ⟨⟨not_restates_connection _, ⟨_, _, rfl, hhidden⟩, by decide +kernel⟩,
    not_restates_connection _, ⟨_, _, rfl, hbroken⟩, by decide +kernel⟩

end WordSet
end Credential
end TreeLint
