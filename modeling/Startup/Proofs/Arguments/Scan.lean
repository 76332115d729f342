import Startup.Proofs.Arguments.Grammar

/-!
# The scan accepts the grammar

A step of the scan is complete at once, or it is complete with the next argument. It completes
exactly with what an item of the grammar says, so the scan of a whole command line succeeds exactly
when the command line has a derivation, and collects what the derivation means.
-/

namespace Startup.Arguments

/-! ## Collecting -/

def Collected.add (collected : Collected) (item : Item) : Collected where
  values := collected.values.insertAll item.bindings
  positional := collected.positional ++ item.positionals

theorem foldl_add (collected : Collected) (items : List Item) :
    items.foldl Collected.add collected =
      ⟨collected.values.insertAll (items.flatMap Item.bindings),
        collected.positional ++ items.flatMap Item.positionals⟩ := by
  induction items generalizing collected with
  | nil => simp [OrderedMap.insertAll]
  | cons item others ih =>
      rw [List.foldl_cons, ih]
      simp [Collected.add, OrderedMap.insertAll]

theorem meaning_eq_foldl (items : List Item) :
    meaning items = items.foldl Collected.add .empty := by
  rw [foldl_add]
  rfl

/-! ## One option -/

/-- Whether a step is complete with some arguments after the one that it read, and leads to
`next`. -/
def Step.CompletesWith (step : Step) (following : List Text) (next : Collected) : Prop :=
  match step with
  | .done collected => following = [] ∧ next = collected
  | .awaiting collected option _ =>
      ∃ value, following = [value] ∧ option.accepts value = true ∧
        next = collected.put option.key value
  | .failed _ _ => False

/-- The step for the last option of an argument, where `inside` stands after its name. -/
def optionStep (collected : Collected) (option : Descriptor) (form inside : Text) : Step :=
  if option.takesValue then
    if inside = [] then .awaiting collected option form
    else acceptInline collected option form inside
  else if inside = [] then .done (collected.put option.key flagValue)
  else .failed collected ⟨.valueUnexpected, form⟩

theorem completesWith_acceptInline_iff {collected next : Collected} {option : Descriptor}
    {form value : Text} {following : List Text} :
    (acceptInline collected option form value).CompletesWith following next ↔
      option.accepts value = true ∧ following = [] ∧ next = collected.put option.key value := by
  unfold acceptInline accept
  cases accepted : option.accepts value <;> simp [Step.CompletesWith]

/-- The last option of an argument is read as the form that it has. -/
theorem completesWith_optionStep_iff {collected next : Collected} {option : Descriptor}
    {shown inside : Text} {following : List Text} :
    (optionStep collected option shown inside).CompletesWith following next ↔
      ∃ form : Form, form.Fits option ∧ form.inside = inside ∧ form.following = following ∧
        next = collected.put option.key form.value := by
  unfold optionStep
  by_cases takes : option.takesValue = true
  · rw [if_pos takes]
    by_cases empty : inside = []
    · rw [if_pos empty]
      constructor
      · rintro ⟨value, rfl, accepted, rfl⟩
        exact ⟨.separate value, ⟨takes, accepted⟩, empty.symm, rfl, rfl⟩
      · rintro ⟨form, fits, within, rfl, rfl⟩
        cases form with
        | flag => exact absurd (fits.symm.trans takes) Bool.noConfusion
        | attached value => exact absurd (within.trans empty) fits.2.1
        | separate value => exact ⟨value, rfl, fits.2, rfl⟩
    · rw [if_neg empty, completesWith_acceptInline_iff]
      constructor
      · rintro ⟨accepted, rfl, rfl⟩
        exact ⟨.attached inside, ⟨takes, empty, accepted⟩, rfl, rfl, rfl⟩
      · rintro ⟨form, fits, rfl, rfl, rfl⟩
        cases form with
        | flag => exact absurd rfl empty
        | attached value => exact ⟨fits.2.2, rfl, rfl⟩
        | separate value => exact absurd rfl empty
  · rw [if_neg takes]
    rw [Bool.not_eq_true] at takes
    by_cases empty : inside = []
    · rw [if_pos empty]
      constructor
      · rintro ⟨rfl, rfl⟩
        exact ⟨.flag, takes, empty.symm, rfl, rfl⟩
      · rintro ⟨form, fits, within, rfl, rfl⟩
        cases form with
        | flag => exact ⟨rfl, rfl⟩
        | attached value => exact absurd (fits.1.symm.trans takes) Bool.noConfusion
        | separate value => exact absurd (fits.1.symm.trans takes) Bool.noConfusion
    · rw [if_neg empty]
      constructor
      · exact False.elim
      · rintro ⟨form, fits, rfl, -⟩
        exact absurd (Form.inside_of_flag fits takes) empty

/-! ## One argument -/

theorem ne_nil_of_findLong? {schema : Schema} {name : Text} {option : Descriptor}
    (found : schema.findLong? name = some option) : name ≠ [] := by
  have test := List.find?_some found
  rw [Bool.and_eq_true, decide_eq_true_eq] at test
  exact test.1

theorem readLong_eq {text name inside : Text}
    (parts : (Text.cut? '=' text).getD (text, []) = (name, inside)) (schema : Schema)
    (collected : Collected) :
    readLong schema collected text =
      match schema.findLong? name with
      | none => .failed collected ⟨.unknown, "--" ++ name⟩
      | some option => optionStep collected option ("--" ++ name) inside := by
  unfold readLong
  rw [parts]
  rfl

theorem completesWith_readLong_of_parts {schema : Schema} {collected next : Collected}
    {text name inside : Text} {following : List Text}
    (parts : (Text.cut? '=' text).getD (text, []) = (name, inside)) :
    (readLong schema collected text).CompletesWith following next ↔
      ∃ option form, schema.findLong? name = some option ∧ Form.Fits option form ∧
        form.inside = inside ∧ form.following = following ∧
        next = collected.put option.key form.value := by
  rw [readLong_eq parts]
  cases found : schema.findLong? name with
  | none => simp [Step.CompletesWith]
  | some option =>
      rw [completesWith_optionStep_iff]
      constructor
      · rintro ⟨form, rest⟩
        exact ⟨option, form, rfl, rest⟩
      · rintro ⟨other, form, same, rest⟩
        obtain rfl := Option.some.inj same
        exact ⟨form, rest⟩

/-- A long option is read as the grammar says. -/
theorem completesWith_readLong_iff {schema : Schema} {collected next : Collected} {text : Text}
    {following : List Text} :
    (readLong schema collected text).CompletesWith following next ↔
      ∃ name equals option form, (Item.long name equals option form).Fits schema ∧
        name ++ assigned equals form = text ∧ form.following = following ∧
        next = collected.put option.key form.value := by
  constructor
  · intro completes
    cases cut : Text.cut? '=' text with
    | none =>
        have parts : (Text.cut? '=' text).getD (text, []) = (text, []) := by rw [cut]; rfl
        obtain ⟨option, form, found, fits, inside, rest⟩ :=
          (completesWith_readLong_of_parts parts).mp completes
        exact ⟨text, false, option, form, ⟨ne_nil_of_findLong? found, Text.cut?_eq_none_iff.mp cut,
          found, fits, absurd inside⟩, List.append_nil text, rest⟩
    | some pair =>
        obtain ⟨name, inside⟩ := pair
        have parts : (Text.cut? '=' text).getD (text, []) = (name, inside) := by rw [cut]; rfl
        obtain ⟨whole, free⟩ := Text.cut?_eq_some_iff.mp cut
        obtain ⟨option, form, found, fits, rfl, rest⟩ :=
          (completesWith_readLong_of_parts parts).mp completes
        exact ⟨name, true, option, form, ⟨ne_nil_of_findLong? found, free, found, fits,
          fun _ => rfl⟩, whole.symm, rest⟩
  · rintro ⟨name, equals, option, form, ⟨-, free, found, fits, marked⟩, rfl, rest⟩
    have parts : (Text.cut? '=' (name ++ assigned equals form)).getD
        (name ++ assigned equals form, []) = (name, form.inside) := by
      rw [cut?_long free]
      cases equals with
      | true => rfl
      | false =>
          have empty : form.inside = [] := by_contra fun inside => Bool.noConfusion (marked inside)
          simp [assigned, empty]
    exact (completesWith_readLong_of_parts parts).mpr ⟨option, form, found, fits, rfl, rest⟩

theorem readBundle_cons {schema : Schema} {name : CodePoint} {option : Descriptor}
    (found : schema.findShort? name = some option) (collected : Collected) (rest : Text) :
    readBundle schema collected (name :: rest) =
      if option.takesValue = false ∧ rest ≠ [] then
        readBundle schema (collected.put option.key flagValue) rest
      else optionStep collected option ['-', name] rest := by
  rw [readBundle, found, optionStep]
  cases takes : option.takesValue with
  | true => simp [takes]
  | false =>
      cases rest with
      | nil => simp [takes, readBundle]
      | cons next others => simp [takes]

theorem add_bundle_nil (collected : Collected) (name : CodePoint) (option : Descriptor)
    (form : Form) :
    collected.add (.bundle [] name option form) = collected.put option.key form.value := by
  simp [Collected.add, Collected.put, Item.bindings, Item.positionals, OrderedMap.insertAll]

theorem add_long (collected : Collected) (name : Text) (equals : Bool) (option : Descriptor)
    (form : Form) :
    collected.add (.long name equals option form) = collected.put option.key form.value := by
  simp [Collected.add, Collected.put, Item.bindings, Item.positionals, OrderedMap.insertAll]

/-- A bundle is read as the grammar says. -/
theorem completesWith_readBundle_iff {schema : Schema} {collected next : Collected} {text : Text}
    (nonempty : text ≠ []) {following : List Text} :
    (readBundle schema collected text).CompletesWith following next ↔
      ∃ flags name option form,
        (∀ flag ∈ flags, schema.findShort? flag.1 = some flag.2 ∧ flag.2.takesValue = false) ∧
        schema.findShort? name = some option ∧ Form.Fits option form ∧
        flags.map Prod.fst ++ name :: form.inside = text ∧ form.following = following ∧
        next = collected.add (.bundle flags name option form) := by
  induction text generalizing collected with
  | nil => exact absurd rfl nonempty
  | cons name rest ih =>
      cases found : schema.findShort? name with
      | none =>
          rw [readBundle, found]
          constructor
          · exact False.elim
          · rintro ⟨flags, last, option, form, lookups, lookup, -, spelled, -⟩
            cases flags with
            | nil =>
                rw [(List.cons.inj spelled).1, found] at lookup
                cases lookup
            | cons flag others =>
                have first := (lookups flag List.mem_cons_self).1
                rw [(List.cons.inj spelled).1, found] at first
                cases first
      | some option =>
          rw [readBundle_cons found]
          by_cases goesOn : option.takesValue = false ∧ rest ≠ []
          · rw [if_pos goesOn, ih goesOn.2]
            constructor
            · rintro ⟨flags, last, lastOption, form, lookups, lookup, fits, rfl, rfl, rfl⟩
              exact ⟨(name, option) :: flags, last, lastOption, form,
                List.forall_mem_cons.mpr ⟨⟨found, goesOn.1⟩, lookups⟩, lookup, fits, rfl, rfl, rfl⟩
            · rintro ⟨flags, last, lastOption, form, lookups, lookup, fits, spelled, rfl, rfl⟩
              cases flags with
              | nil =>
                  obtain ⟨rfl, inside⟩ := List.cons.inj spelled
                  obtain rfl := Option.some.inj (found.symm.trans lookup)
                  rw [Form.inside_of_flag fits goesOn.1] at inside
                  exact absurd inside.symm goesOn.2
              | cons flag others =>
                  obtain ⟨first, later⟩ := List.forall_mem_cons.mp lookups
                  obtain ⟨rfl, tail⟩ := List.cons.inj spelled
                  obtain rfl := Option.some.inj (found.symm.trans first.1)
                  exact ⟨others, last, lastOption, form, later, lookup, fits, tail, rfl, rfl⟩
          · rw [if_neg goesOn, completesWith_optionStep_iff]
            constructor
            · rintro ⟨form, fits, rfl, rfl, rfl⟩
              exact ⟨[], name, option, form, fun _ member => absurd member List.not_mem_nil, found,
                fits, rfl, rfl, (add_bundle_nil ..).symm⟩
            · rintro ⟨flags, last, lastOption, form, lookups, lookup, fits, spelled, rfl, rfl⟩
              cases flags with
              | nil =>
                  obtain ⟨rfl, inside⟩ := List.cons.inj spelled
                  obtain rfl := Option.some.inj (found.symm.trans lookup)
                  exact ⟨form, fits, inside, rfl, add_bundle_nil ..⟩
              | cons flag others =>
                  obtain ⟨first, -⟩ := List.forall_mem_cons.mp lookups
                  obtain ⟨rfl, tail⟩ := List.cons.inj spelled
                  obtain rfl := Option.some.inj (found.symm.trans first.1)
                  refine absurd ⟨first.2, ?_⟩ goesOn
                  rw [← tail]
                  simp

/-- Whether some item begins with an argument, goes on with others, and leads to `next`. -/
def ReadAsItem (schema : Schema) (collected : Collected) (argument : Text) (following : List Text)
    (next : Collected) : Prop :=
  ∃ item : Item, item.Fits schema ∧ item.argument = argument ∧ item.following = following ∧
    next = collected.add item

section Items

variable {schema : Schema} {collected next : Collected} {following : List Text}

theorem completesWith_blank_iff :
    (Step.done collected).CompletesWith following next ↔
      ReadAsItem schema collected [] following next := by
  have added : collected.add .blank = collected := by
    simp [Collected.add, Item.bindings, Item.positionals, OrderedMap.insertAll]
  constructor
  · rintro ⟨rfl, rfl⟩
    exact ⟨.blank, trivial, rfl, rfl, added.symm⟩
  · rintro ⟨item, fits, spelled, rfl, rfl⟩
    have kinds := kindOf_argument fits
    rw [spelled] at kinds
    cases item with
    | blank => exact ⟨rfl, added⟩
    | _ => cases kinds

theorem completesWith_push_iff {argument : Text} (fits : (Item.positional argument).Fits schema) :
    (Step.done (collected.push argument)).CompletesWith following next ↔
      ReadAsItem schema collected argument following next := by
  have added : collected.add (.positional argument) = collected.push argument := by
    simp [Collected.add, Collected.push, Item.bindings, Item.positionals, OrderedMap.insertAll]
  have kind : kindOf argument = .positional := kindOf_argument fits
  constructor
  · rintro ⟨rfl, rfl⟩
    exact ⟨.positional argument, fits, rfl, rfl, added.symm⟩
  · rintro ⟨item, fits', spelled, rfl, rfl⟩
    have kinds := kindOf_argument fits'
    rw [spelled, kind] at kinds
    cases item with
    | positional other =>
        obtain rfl : other = argument := spelled
        exact ⟨rfl, added⟩
    | _ => cases kinds

theorem completesWith_long_iff {text : Text} :
    (readLong schema collected text).CompletesWith following next ↔
      ReadAsItem schema collected (CodePoint.ofChar '-' :: CodePoint.ofChar '-' :: text) following
        next := by
  rw [completesWith_readLong_iff]
  constructor
  · rintro ⟨name, equals, option, form, fits, rfl, rfl, rfl⟩
    exact ⟨.long name equals option form, fits, rfl, rfl, (add_long ..).symm⟩
  · rintro ⟨item, fits, spelled, rfl, rfl⟩
    have kinds := kindOf_argument fits
    rw [spelled] at kinds
    cases item with
    | long name equals option form =>
        exact ⟨name, equals, option, form, fits, (List.cons.inj (List.cons.inj spelled).2).2, rfl,
          add_long ..⟩
    | _ => cases kinds

theorem completesWith_bundle_iff {first : CodePoint} (other : first ≠ '-') {rest : Text} :
    (readBundle schema collected (first :: rest)).CompletesWith following next ↔
      ReadAsItem schema collected (CodePoint.ofChar '-' :: first :: rest) following next := by
  have kind : kindOf (CodePoint.ofChar '-' :: first :: rest) = .bundle := if_neg other
  rw [completesWith_readBundle_iff (List.cons_ne_nil _ _)]
  constructor
  · rintro ⟨flags, name, option, form, lookups, lookup, fits, spelled, rfl, rfl⟩
    refine ⟨.bundle flags name option form, ⟨?_, lookups, lookup, fits⟩,
      congrArg (CodePoint.ofChar '-' :: ·) spelled, rfl, rfl⟩
    rw [← head?_bundle flags name form.inside, spelled]
    exact fun same => other (Option.some.inj same)
  · rintro ⟨item, fits, spelled, rfl, rfl⟩
    have kinds := kindOf_argument fits
    rw [spelled, kind] at kinds
    cases item with
    | bundle flags name option form =>
        obtain ⟨-, lookups, lookup, fits⟩ := fits
        exact ⟨flags, name, option, form, lookups, lookup, fits, (List.cons.inj spelled).2, rfl,
          rfl⟩
    | _ => cases kinds

/-- An argument is read as the grammar says. -/
theorem completesWith_readArgument_iff {argument : Text} :
    (readArgument schema collected argument).CompletesWith following next ↔
      ReadAsItem schema collected argument following next := by
  match argument with
  | [] => exact completesWith_blank_iff
  | [single] =>
      refine completesWith_push_iff ?_
      by_cases dash : single = '-'
      · exact Or.inl (by rw [dash])
      · exact Or.inr ⟨List.cons_ne_nil _ _, fun same => dash (Option.some.inj same)⟩
  | first :: second :: rest =>
      rw [readArgument]
      by_cases dash : first = '-'
      · subst dash
        rw [if_pos rfl]
        by_cases long : second = '-'
        · subst long
          rw [if_pos rfl]
          exact completesWith_long_iff
        · rw [if_neg long]
          exact completesWith_bundle_iff long
      · rw [if_neg dash]
        exact completesWith_push_iff
          (Or.inr ⟨List.cons_ne_nil _ _, fun same => dash (Option.some.inj same)⟩)

end Items

/-! ## All arguments -/

theorem scan_cons_eq_iff {schema : Schema} {collected result : Collected} {argument : Text}
    {rest : List Text} :
    scan schema collected (argument :: rest) = (result, none) ↔
      ∃ following others next, following ++ others = rest ∧
        (readArgument schema collected argument).CompletesWith following next ∧
        scan schema next others = (result, none) := by
  rw [scan]
  cases readArgument schema collected argument with
  | done next => simp [Step.CompletesWith]
  | failed stopped error => simp [Step.CompletesWith]
  | awaiting stopped option form =>
      cases rest with
      | nil => simp [Step.CompletesWith]
      | cons value others =>
          cases accepted : option.accepts value <;>
            simp [Step.CompletesWith, accept, accepted]

/-- The scan succeeds exactly on derivations, and collects what they say. -/
theorem scan_eq_iff {schema : Schema} {collected result : Collected} {arguments : List Text} :
    scan schema collected arguments = (result, none) ↔
      ∃ items, Derives schema items arguments ∧ items.foldl Collected.add collected = result := by
  constructor
  · intro scanned
    induction size : arguments.length using Nat.strong_induction_on
      generalizing arguments collected with
    | h n ih =>
        cases arguments with
        | nil =>
            obtain rfl := (Prod.mk.inj scanned).1
            exact ⟨[], ⟨fun _ member => absurd member List.not_mem_nil, rfl⟩, rfl⟩
        | cons argument rest =>
            obtain ⟨following, others, next, rfl, completes, scanned⟩ :=
              scan_cons_eq_iff.mp scanned
            obtain ⟨item, fits, rfl, rfl, rfl⟩ := completesWith_readArgument_iff.mp completes
            have shorter : others.length < n := by
              rw [← size, List.length_cons, List.length_append]
              omega
            obtain ⟨items, ⟨allFit, rfl⟩, rfl⟩ := ih others.length shorter scanned rfl
            exact ⟨item :: items, ⟨List.forall_mem_cons.mpr ⟨fits, allFit⟩, rfl⟩, rfl⟩
  · rintro ⟨items, ⟨fits, rfl⟩, rfl⟩
    induction items generalizing collected with
    | nil => rfl
    | cons item others ih =>
        rw [List.forall_mem_cons] at fits
        rw [List.flatMap_cons, Item.arguments, List.cons_append, scan_cons_eq_iff]
        exact ⟨item.following, _, collected.add item, rfl,
          completesWith_readArgument_iff.mpr ⟨item, fits.1, rfl, rfl, rfl⟩, ih fits.2⟩

/-! ## Required options -/

theorem contains_insertAll {map : OrderedMap Text Text} {pairs : List (Text × Text)} {key : Text} :
    (map.insertAll pairs).contains key = true ↔
      (∃ value, (key, value) ∈ pairs) ∨ map.contains key = true := by
  unfold OrderedMap.insertAll
  induction pairs generalizing map with
  | nil => simp
  | cons pair others ih =>
      obtain ⟨first, stored⟩ := pair
      rw [List.foldl_cons, ih, OrderedMap.contains, OrderedMap.get?_insert, OrderedMap.contains]
      by_cases same : first = key
      · simp [same]
      · simp [same, Ne.symm same]

theorem contains_meaning {items : List Item} {key : Text} :
    (meaning items).values.contains key = true ↔
      ∃ item ∈ items, ∃ value, (key, value) ∈ item.bindings := by
  rw [meaning, OrderedMap.ofList, contains_insertAll]
  simp only [List.mem_flatMap]
  constructor
  · rintro (⟨value, item, member, bound⟩ | impossible)
    · exact ⟨item, member, value, bound⟩
    · cases impossible
  · rintro ⟨item, member, value, bound⟩
    exact Or.inl ⟨value, item, member, bound⟩

theorem missing?_meaning_eq_none_iff {schema : Schema} {items : List Item} :
    missing? schema (meaning items) = none ↔ Complete schema items := by
  unfold missing? Complete
  rw [Option.map_eq_none_iff, List.find?_eq_none]
  refine forall_congr' fun option => forall_congr' fun _ => ?_
  rw [← contains_meaning]
  simp

theorem parse_eq_iff {schema : Schema} {arguments : List Text} {collected : Collected} :
    parse schema arguments = (collected, none) ↔
      scan schema .empty arguments = (collected, none) ∧ missing? schema collected = none := by
  unfold parse
  rcases scan schema .empty arguments with ⟨found, _ | error⟩
  · simp only [Prod.mk.injEq, and_true]
    constructor
    · rintro ⟨rfl, complete⟩
      exact ⟨rfl, complete⟩
    · rintro ⟨rfl, complete⟩
      exact ⟨rfl, complete⟩
  · simp

/-- A command line is accepted exactly when it has a derivation that stores a value for each
required option. What is collected is what the derivation says, and there is only one derivation. -/
theorem parse_eq_iff_derives (schema : Schema) (arguments : List Text) :
    (∀ collected, parse schema arguments = (collected, none) ↔
      ∃ items, Derives schema items arguments ∧ Complete schema items ∧ collected = meaning items) ∧
    ∀ items items', Derives schema items arguments → Derives schema items' arguments →
      items = items' := by
  refine ⟨fun collected => ?_, fun items items' => Derives.unique⟩
  rw [parse_eq_iff, scan_eq_iff]
  simp only [← meaning_eq_foldl]
  constructor
  · rintro ⟨⟨items, derives, rfl⟩, complete⟩
    exact ⟨items, derives, missing?_meaning_eq_none_iff.mp complete, rfl⟩
  · rintro ⟨items, derives, complete, rfl⟩
    exact ⟨⟨items, derives, rfl⟩, missing?_meaning_eq_none_iff.mpr complete⟩

end Startup.Arguments
