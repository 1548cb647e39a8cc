import TreeLint.CommandLine.Arguments

/-!
# What arguments say

The arguments of the program are a sequence of items: files, switches, and options with a value. The
grammar of arguments tells which items they stand for, whatever was read before. Arguments are read
item by item, so an option is there in the end if and only if some item names it.

**Results.**
* `Says.readAll_eq`: arguments that the grammar admits are read item by item.
* `exists_says`: the grammar admits all arguments that are read.
* `has_iff_names`: an option is set in what is read if and only if the arguments name it.
-/

namespace TreeLint
namespace CommandLine

open Arguments (looksLikeOption splitLong)

/-- One thing that arguments say. -/
inductive Item where
  | file (path : String)
  | switch (s : Switch)
  | field (f : Field) (value : String)

namespace Item

/-- The option that an item names. -/
def option? : Item → Option OptionName
  | file _ => none
  | switch s => some (.switch s)
  | field f _ => some (.field f)

/-- Puts an item into what was read before it. -/
def put (a : Arguments) : Item → Except Stop Arguments
  | file path => .ok { a with files := a.files ++ [path] }
  | switch s => a.turnOn s
  | field f value => a.set f value

end Item

/-! ## The grammar of arguments -/

/-- Short options that are run together, and the option at the end whose value is missing. -/
inductive Cluster : List Char → List Item → Option Field → Prop
  | nil : Cluster [] [] none
  | switch {c cs s items left}
      (hname : shortNames.lookup c = some (.switch s))
      (hrest : Cluster cs items left) :
      Cluster (c :: cs) (.switch s :: items) left
  | bare {c f}
      (hname : shortNames.lookup c = some (.field f)) :
      Cluster [c] [] (some f)
  | equals {c f value}
      (hname : shortNames.lookup c = some (.field f)) :
      Cluster (c :: '=' :: value) [.field f (String.ofList value)] none
  | joined {c f d value}
      (hname : shortNames.lookup c = some (.field f))
      (hd : d ≠ '=') :
      Cluster (c :: d :: value) [.field f (String.ofList (d :: value))] none

/-- What one argument says, and the option whose value is missing. -/
inductive One (arg : String) : List Item → Option Field → Prop
  | file
      (harg : looksLikeOption arg = false) :
      One arg [.file arg] none
  | switch {name s}
      (harg : arg.toList = '-' :: '-' :: name)
      (hname : longNames.lookup (String.ofList name) = some (.switch s)) :
      One arg [.switch s] none
  | bare {name f}
      (harg : arg.toList = '-' :: '-' :: name)
      (hname : longNames.lookup (String.ofList name) = some (.field f)) :
      One arg [] (some f)
  | equals {name f value}
      (harg : arg.toList = '-' :: '-' :: (name ++ '=' :: value))
      (hname : longNames.lookup (String.ofList name) = some (.field f)) :
      One arg [.field f (String.ofList value)] none
  | cluster {c cs items left}
      (harg : arg.toList = '-' :: c :: cs)
      (hc : c ≠ '-')
      (hcs : Cluster (c :: cs) items left) :
      One arg items left

/-- What arguments say. An option takes the next argument for its missing value, and two dashes end
the options. -/
inductive Says : List String → List Item → Prop
  | nil : Says [] []
  | files (paths : List String) : Says ("--" :: paths) (paths.map .file)
  | complete {arg args items more}
      (harg : One arg items none)
      (hargs : Says args more) :
      Says (arg :: args) (items ++ more)
  | withNext {arg value args items more f}
      (harg : One arg items (some f))
      (hvalue : looksLikeOption value = false)
      (hargs : Says args more) :
      Says (arg :: value :: args) (items ++ .field f value :: more)

/-! ## Long options -/

theorem notMem_of_lookup {name : List Char} {o : OptionName}
    (h : longNames.lookup (String.ofList name) = some o) : '=' ∉ name := by
  have hall : ∀ p ∈ longNames, '=' ∉ p.1.toList := by decide
  have hmem : (String.ofList name, o) ∈ longNames := by
    obtain ⟨front, back, hsplit, -⟩ := List.lookup_eq_some_iff.mp h
    simp [hsplit]
  simpa using hall _ hmem

theorem takeWhile_name {name : List Char} (h : '=' ∉ name) (rest : List Char) :
    (name ++ rest).takeWhile (· != '=') = name ++ rest.takeWhile (· != '=') := by
  apply List.takeWhile_append_of_pos
  intro c hc
  simpa using fun heq : c = '=' => h (heq ▸ hc)

theorem splitLong_name {name : List Char} (h : '=' ∉ name) :
    splitLong name = (String.ofList name, .none) := by
  have htake := takeWhile_name h []
  simp only [List.append_nil, List.takeWhile_nil] at htake
  simp [splitLong, htake]

theorem splitLong_value {name : List Char} (h : '=' ∉ name) (value : List Char) :
    splitLong (name ++ '=' :: value) = (String.ofList name, some (String.ofList value)) := by
  simp [splitLong, takeWhile_name h]

/-! ## Items one after another -/

theorem foldlM_files (paths : List String) :
    ∀ a : Arguments,
      (paths.map Item.file).foldlM Item.put a = .ok { a with files := a.files ++ paths } := by
  induction paths with
  | nil =>
      intro a
      simp [pure, Except.pure]
  | cons path paths ih =>
      intro a
      simp only [List.map_cons, List.foldlM_cons, Item.put, bind, Except.bind]
      rw [ih]
      simp

variable {cs : List Char} {arg : String} {args : List String} {items : List Item}
  {left : Option Field} {a b : Arguments} {o : OptionName}

theorem Cluster.readShort_eq (h : Cluster cs items left) :
    ∀ a : Arguments, a.readShort cs = (items.foldlM Item.put a).map fun b => (b, left) := by
  induction h with
  | nil =>
      intro a
      rfl
  | switch hname _ ih =>
      intro a
      simp only [Arguments.readShort, hname, List.foldlM_cons, Item.put]
      cases hon : a.turnOn _ with
      | error stop => rfl
      | ok b => exact ih b
  | bare hname =>
      intro a
      simp [Arguments.readShort, hname, pure, Except.pure, Except.map]
  | equals hname =>
      intro a
      simp [Arguments.readShort, hname, Item.put]
  | joined hname hd =>
      intro a
      simp [Arguments.readShort, hname, Item.put, hd]

/-- An argument that does not look like an option is a file. -/
theorem readOne_of_looksLikeOption (h : looksLikeOption arg = false) (a : Arguments) :
    a.readOne arg = .ok ({ a with files := a.files ++ [arg] }, .none) := by
  rw [Arguments.readOne]
  split
  · next harg => simp [looksLikeOption, harg] at h
  · next harg => simp [looksLikeOption, harg] at h
  · rfl

theorem One.readOne_eq (h : One arg items left) (a : Arguments) :
    a.readOne arg = (items.foldlM Item.put a).map fun b => (b, left) := by
  cases h with
  | file harg =>
      simp [readOne_of_looksLikeOption harg, Item.put, Except.map]
  | switch harg hname =>
      simp [Arguments.readOne, Arguments.readLong, harg, splitLong_name (notMem_of_lookup hname),
        hname, Item.put]
  | bare harg hname =>
      simp [Arguments.readOne, Arguments.readLong, harg, splitLong_name (notMem_of_lookup hname),
        hname, pure, Except.pure, Except.map]
  | equals harg hname =>
      simp [Arguments.readOne, Arguments.readLong, harg,
        splitLong_value (notMem_of_lookup hname), hname, Item.put]
  | cluster harg hc hcs =>
      simp [Arguments.readOne, harg, hcs.readShort_eq]

theorem One.ne_end (h : One arg items left) : arg ≠ "--" := by
  rintro rfl
  have hempty : longNames.lookup "" = .none := by decide
  rcases h with harg | ⟨harg, hname⟩ | ⟨harg, hname⟩ | ⟨harg, hname⟩ | ⟨harg, hc, -⟩
  · simp [looksLikeOption] at harg
  · obtain rfl : _ = [] := by simpa using harg
    simp [hempty] at hname
  · obtain rfl : _ = [] := by simpa using harg
    simp [hempty] at hname
  · simp at harg
  · simp only [String.reduceToList, List.cons.injEq, true_and] at harg
    exact hc harg.1.symm

/-- Arguments that the grammar admits are read item by item. -/
theorem Says.readAll_eq (h : Says args items) :
    ∀ a : Arguments, a.readAll args = items.foldlM Item.put a := by
  induction h with
  | nil =>
      intro a
      rfl
  | files paths =>
      intro a
      simp [foldlM_files, Arguments.readAll]
  | complete harg _ ih =>
      intro a
      rw [Arguments.readAll, if_neg harg.ne_end, harg.readOne_eq, List.foldlM_append]
      cases hitems : List.foldlM Item.put a _ with
      | error stop => rfl
      | ok b => exact ih b
  | withNext harg hvalue _ ih =>
      intro a
      rw [Arguments.readAll, if_neg harg.ne_end, harg.readOne_eq, List.foldlM_append]
      cases hitems : List.foldlM Item.put a _ with
      | error stop => rfl
      | ok b =>
          simp only [Except.map, hvalue, List.foldlM_cons, Item.put, bind, Except.bind]
          cases b.set _ _ with
          | error stop => rfl
          | ok c => exact ih c

/-! ## The grammar of what is read -/

theorem eq_of_map_eq_ok {x : Except Stop Arguments} {l : Option Field}
    (h : (x.map fun c => (c, l)) = .ok (b, left)) : x = .ok b ∧ l = left := by
  cases x with
  | error stop => cases h
  | ok c =>
      cases h
      exact ⟨rfl, rfl⟩

theorem exists_cluster :
    ∀ (cs : List Char) {a : Arguments}, a.readShort cs = .ok (b, left) →
      ∃ items, Cluster cs items left
  | [], a, h => by
      cases h
      exact ⟨[], .nil⟩
  | c :: cs, a, h => by
      rw [Arguments.readShort.eq_def] at h
      dsimp only at h
      split at h
      · cases h
      · next s hname =>
          split at h
          · obtain ⟨items, hitems⟩ := exists_cluster cs h
            exact ⟨_, .switch hname hitems⟩
          · cases h
      · next f hname =>
          split at h
          · cases h
            exact ⟨_, .bare hname⟩
          · obtain ⟨-, rfl⟩ := eq_of_map_eq_ok h
            exact ⟨_, .equals hname⟩
          · next hnil hequals =>
              obtain ⟨-, rfl⟩ := eq_of_map_eq_ok h
              rcases cs with _ | ⟨d, value⟩
              · exact absurd rfl hnil
              · exact ⟨_, .joined hname fun hd => hequals value (hd ▸ rfl)⟩

theorem exists_one_long {cs : List Char} (harg : arg.toList = '-' :: '-' :: cs)
    (h : a.readLong cs = .ok (b, left)) : ∃ items, One arg items left := by
  by_cases hmem : '=' ∈ cs
  · obtain ⟨name, value, rfl, hname⟩ := List.eq_append_cons_of_mem hmem
    rw [Arguments.readLong, splitLong_value hname] at h
    dsimp only at h
    split at h
    · next hvalue => cases hvalue
    · next f v hlookup hvalue =>
        cases hvalue
        obtain ⟨-, rfl⟩ := eq_of_map_eq_ok h
        exact ⟨_, .equals harg hlookup⟩
    · next hvalue => cases hvalue
    · cases h
  · rw [Arguments.readLong, splitLong_name hmem] at h
    dsimp only at h
    split at h
    · next s hlookup _ =>
        obtain ⟨-, rfl⟩ := eq_of_map_eq_ok h
        exact ⟨_, .switch harg hlookup⟩
    · next hvalue => cases hvalue
    · next f hlookup _ =>
        cases h
        exact ⟨_, .bare harg hlookup⟩
    · cases h

theorem exists_one (h : a.readOne arg = .ok (b, left)) : ∃ items, One arg items left := by
  rw [Arguments.readOne] at h
  split at h
  · next cs harg => exact exists_one_long harg h
  · next c cs hc harg =>
      obtain ⟨items, hitems⟩ := exists_cluster (c :: cs) h
      exact ⟨items, .cluster harg hc hitems⟩
  · next hlong hshort =>
      cases h
      refine ⟨_, .file ?_⟩
      rw [looksLikeOption]
      split
      · next c cs harg => exact absurd harg (hshort c cs)
      · rfl

/-- The grammar admits all arguments that are read. -/
theorem exists_says : ∀ (args : List String) {a : Arguments},
    a.readAll args = .ok b → ∃ items, Says args items
  | [], _, _ => ⟨[], .nil⟩
  | arg :: rest, a, h => by
      rw [Arguments.readAll.eq_def] at h
      dsimp only at h
      split at h
      · next hend =>
          rw [hend]
          exact ⟨_, .files rest⟩
      · split at h
        · cases h
        · next hone =>
            obtain ⟨items, hitems⟩ := exists_one hone
            obtain ⟨more, hmore⟩ := exists_says rest h
            exact ⟨_, .complete hitems hmore⟩
        · next c f hone =>
            obtain ⟨items, hitems⟩ := exists_one hone
            split at h
            · cases h
            · next value rest =>
                split at h
                · cases h
                · next hvalue =>
                    split at h
                    · obtain ⟨more, hmore⟩ := exists_says rest h
                      exact ⟨_, .withNext hitems (by simpa using hvalue) hmore⟩
                    · cases h

/-! ## Options that are set -/

namespace Arguments

/-- Whether an option is set. Help and the version are not part of a run. -/
def has (a : Arguments) : OptionName → Bool
  | .switch .verbose => a.verbose
  | .switch .noColor => a.noColor
  | .switch .pretty => a.pretty
  | .switch .listRules => a.listRules
  | .switch .timing => a.timing
  | .switch .exitZero => a.exitZero
  | .switch .help => false
  | .switch .version => false
  | .field .config => a.config.isSome
  | .field .format => a.format.isSome
  | .field .jobs => a.jobs.isSome
  | .field .disable => a.disable.isSome
  | .field .enable => a.enable.isSome
  | .field .select => a.select.isSome
  | .field .minSeverity => a.minSeverity.isSome
  | .field .explain => a.explain.isSome

@[simp] theorem has_none (o : OptionName) : Arguments.none.has o = false := by
  rcases o with s | f
  · cases s <;> rfl
  · cases f <;> rfl

end Arguments

theorem eq_of_once {on : Bool} (h : once on a = .ok b) : b = a := by
  cases on <;> cases h
  rfl

theorem exists_of_setOnce {α : Type} {old read : Option α} {set : α → Arguments}
    (h : Arguments.setOnce old read set = .ok b) : ∃ x, b = set x := by
  rcases old with _ | _ <;> rcases read with _ | x <;> cases h
  exact ⟨x, rfl⟩

theorem has_turnOn {s : Switch} (h : a.turnOn s = .ok b) (o : OptionName) :
    b.has o = (a.has o || o == .switch s) := by
  cases s with
  | help => cases h
  | version => cases h
  | _ =>
      obtain rfl := eq_of_once h
      rcases o with t | f
      · cases t <;> simp [Arguments.has]
      · cases f <;> simp [Arguments.has]

theorem has_set {f : Field} {value : String} (h : a.set f value = .ok b) (o : OptionName) :
    b.has o = (a.has o || o == .field f) := by
  cases f with
  | disable | enable | select =>
      cases h
      rcases o with s | g
      · cases s <;> simp [Arguments.has]
      · cases g <;> simp [Arguments.has, Arguments.addItems]
  | _ =>
      obtain ⟨x, rfl⟩ := exists_of_setOnce h
      rcases o with s | g
      · cases s <;> simp [Arguments.has]
      · cases g <;> simp [Arguments.has]

/-- An item sets the option that it names. -/
theorem has_put {item : Item} (h : item.put a = .ok b) (o : OptionName) :
    b.has o = (a.has o || some o == item.option?) := by
  cases item with
  | file path =>
      cases h
      rcases o with s | f
      · cases s <;> simp [Arguments.has, Item.option?]
      · cases f <;> simp [Arguments.has, Item.option?]
  | switch s => simp [has_turnOn h o, Item.option?]
  | field f value => simp [has_set h o, Item.option?]

theorem has_foldlM (o : OptionName) (items : List Item) :
    ∀ {a : Arguments}, items.foldlM Item.put a = .ok b →
      b.has o = (a.has o || items.any fun item => some o == item.option?) := by
  induction items with
  | nil =>
      intro a h
      cases h
      simp
  | cons item items ih =>
      intro a h
      rw [List.foldlM_cons] at h
      cases hput : item.put a with
      | error stop =>
          rw [hput] at h
          cases h
      | ok c =>
          rw [hput] at h
          simp [ih h, has_put hput, Bool.or_assoc]

/-- Whether arguments name an option. -/
def Names (args : List String) (o : OptionName) : Prop :=
  ∃ items, Says args items ∧ ∃ item ∈ items, item.option? = some o

theorem Says.has_eq (h : Says args items) (hread : Arguments.read args = .ok a) (o : OptionName) :
    a.has o = items.any fun item => some o == item.option? := by
  rw [Arguments.read, h.readAll_eq] at hread
  simp [has_foldlM o items hread]

/-- An option is set in what is read if and only if the arguments name it. -/
theorem has_iff_names (hread : Arguments.read args = .ok a) (o : OptionName) :
    a.has o = true ↔ Names args o := by
  constructor
  · intro hset
    obtain ⟨items, hitems⟩ := exists_says args hread
    rw [hitems.has_eq hread] at hset
    obtain ⟨item, hmem, hitem⟩ := List.any_eq_true.mp hset
    exact ⟨items, hitems, item, hmem, (by simpa using hitem : some o = item.option?).symm⟩
  · rintro ⟨items, hitems, item, hmem, hitem⟩
    rw [hitems.has_eq hread]
    exact List.any_eq_true.mpr ⟨item, hmem, by simp [hitem]⟩

end CommandLine
end TreeLint
