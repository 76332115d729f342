import Startup.Arguments.Scan
import Startup.Proofs.Text.Pieces

/-!
# The grammar of command lines

A command line is a sequence of items. An item is an empty argument, a positional argument, a long
option, or a bundle of short ones in which all but the last take no value. An option with a value
has it in its own argument or in the next one.

The grammar is unambiguous: the kind of an item shows at the beginning of its first argument, the
name of a long option ends at the first equals sign, and a bundle goes on as long as its options
take no value.
-/

namespace Startup.Arguments

/-- How an option stands in its argument. -/
inductive Form where
  | flag
  | attached (value : Text)
  | separate (value : Text)
deriving DecidableEq

namespace Form

def inside : Form → Text
  | attached value => value
  | _ => []

def following : Form → List Text
  | separate value => [value]
  | _ => []

def value : Form → Text
  | flag => flagValue
  | attached value => value
  | separate value => value

def Fits (option : Descriptor) : Form → Prop
  | flag => option.takesValue = false
  | attached value => option.takesValue = true ∧ value ≠ [] ∧ option.accepts value = true
  | separate value => option.takesValue = true ∧ option.accepts value = true

end Form

/-- A part of a command line, with the options that it names. -/
inductive Item where
  | blank
  | positional (argument : Text)
  | long (name : Text) (equals : Bool) (option : Descriptor) (form : Form)
  | bundle (flags : List (CodePoint × Descriptor)) (name : CodePoint) (option : Descriptor)
      (form : Form)

def assigned (equals : Bool) (form : Form) : Text :=
  if equals then CodePoint.ofChar '=' :: form.inside else []

namespace Item

def argument : Item → Text
  | blank => []
  | positional argument => argument
  | long name equals _ form =>
      CodePoint.ofChar '-' :: CodePoint.ofChar '-' :: (name ++ assigned equals form)
  | bundle flags name _ form => CodePoint.ofChar '-' :: (flags.map Prod.fst ++ name :: form.inside)

def following : Item → List Text
  | blank | positional _ => []
  | long _ _ _ form => form.following
  | bundle _ _ _ form => form.following

def arguments (item : Item) : List Text :=
  item.argument :: item.following

/-- The values that the item stores, under the keys of their options. -/
def bindings : Item → List (Text × Text)
  | blank | positional _ => []
  | long _ _ option form => [(option.key, form.value)]
  | bundle flags _ option form =>
      flags.map (fun flag => (flag.2.key, flagValue)) ++ [(option.key, form.value)]

def positionals : Item → List Text
  | positional argument => [argument]
  | _ => []

/-- Whether the item is built by the rules, with the options that the schema finds first. -/
def Fits (schema : Schema) : Item → Prop
  | blank => True
  | positional argument =>
      argument = [CodePoint.ofChar '-'] ∨
        argument ≠ [] ∧ argument.head? ≠ some (CodePoint.ofChar '-')
  | long name equals option form =>
      name ≠ [] ∧ CodePoint.ofChar '=' ∉ name ∧ schema.findLong? name = some option ∧
        form.Fits option ∧ (form.inside ≠ [] → equals = true)
  | bundle flags name option form =>
      (flags.map Prod.fst ++ [name]).head? ≠ some (CodePoint.ofChar '-') ∧
        (∀ flag ∈ flags, schema.findShort? flag.1 = some flag.2 ∧ flag.2.takesValue = false) ∧
        schema.findShort? name = some option ∧ form.Fits option

end Item

/-- A derivation of a command line: items that fit and spell its arguments. -/
structure Derives (schema : Schema) (items : List Item) (arguments : List Text) : Prop where
  fits : ∀ item ∈ items, item.Fits schema
  spells : items.flatMap Item.arguments = arguments

/-- What a derivation says: each key has the value that was stored last, and the positional
arguments stand in order. -/
def meaning (items : List Item) : Collected where
  values := OrderedMap.ofList (items.flatMap Item.bindings)
  positional := items.flatMap Item.positionals

/-- Whether a derivation stores a value for each option that is required. -/
def Complete (schema : Schema) (items : List Item) : Prop :=
  ∀ option ∈ schema, option.required = true →
    ∃ item ∈ items, ∃ value, (option.key, value) ∈ item.bindings

inductive Kind where
  | blank
  | positional
  | long
  | bundle
deriving DecidableEq

def kindOf : Text → Kind
  | [] => .blank
  | [_] => .positional
  | first :: second :: _ =>
      if first = '-' then if second = '-' then .long else .bundle else .positional

def Item.kind : Item → Kind
  | blank => .blank
  | positional _ => .positional
  | long .. => .long
  | bundle .. => .bundle

theorem head?_bundle (flags : List (CodePoint × Descriptor)) (name : CodePoint) (rest : Text) :
    (flags.map Prod.fst ++ name :: rest).head? = (flags.map Prod.fst ++ [name]).head? := by
  cases flags <;> rfl

theorem kindOf_argument {schema : Schema} {item : Item} (fits : item.Fits schema) :
    kindOf item.argument = item.kind := by
  cases item with
  | blank => rfl
  | positional argument =>
      rcases fits with rfl | ⟨nonempty, first⟩
      · rfl
      · match argument with
        | [] => exact absurd rfl nonempty
        | [_] => rfl
        | point :: _ :: _ =>
            have other : point ≠ '-' := fun same => first (by rw [same]; rfl)
            exact if_neg other
  | long name equals option form => rfl
  | bundle flags name option form =>
      have first := fits.1
      rw [← head?_bundle flags name form.inside] at first
      cases shape : flags.map Prod.fst ++ name :: form.inside with
      | nil => exact absurd shape (by simp)
      | cons point rest =>
          rw [shape] at first
          have other : point ≠ '-' := fun same => first (by rw [same]; rfl)
          rw [Item.argument, shape]
          exact if_neg other

theorem Form.inside_of_flag {option : Descriptor} {form : Form} (fits : form.Fits option)
    (flag : option.takesValue = false) : form.inside = [] := by
  cases form with
  | flag => rfl
  | attached value => exact absurd (fits.1.symm.trans flag) Bool.noConfusion
  | separate value => rfl

/-- The form is determined by what stands in the argument and by what follows. -/
theorem Form.eq_of_fits {option : Descriptor} {form form' : Form} (fits : form.Fits option)
    (fits' : form'.Fits option) (inside : form.inside = form'.inside) {rest rest' : List Text}
    (following : form.following ++ rest = form'.following ++ rest') : form = form' := by
  cases form with
  | flag =>
      cases form' with
      | flag => rfl
      | attached value => exact absurd (fits.symm.trans fits'.1) Bool.noConfusion
      | separate value => exact absurd (fits.symm.trans fits'.1) Bool.noConfusion
  | attached value =>
      cases form' with
      | flag => exact absurd (fits'.symm.trans fits.1) Bool.noConfusion
      | attached value' => rw [show value = value' from inside]
      | separate value' => exact absurd inside fits.2.1
  | separate value =>
      cases form' with
      | flag => exact absurd (fits'.symm.trans fits.1) Bool.noConfusion
      | attached value' => exact absurd inside.symm fits'.2.1
      | separate value' => rw [(List.cons.inj following).1]

/-- Cutting the text after the dashes gives the name of a long option back. -/
theorem cut?_long {name : Text} (free : CodePoint.ofChar '=' ∉ name) (equals : Bool) (form : Form) :
    Text.cut? '=' (name ++ assigned equals form) =
      if equals then some (name, form.inside) else none := by
  cases equals with
  | false => simpa [assigned] using Text.cut?_eq_none_iff.mpr free
  | true => exact Text.cut?_eq_some_iff.mpr ⟨rfl, free⟩

theorem long_unique {name name' : Text} {equals equals' : Bool} {form form' : Form}
    (free : CodePoint.ofChar '=' ∉ name) (free' : CodePoint.ofChar '=' ∉ name')
    (marked : form.inside ≠ [] → equals = true) (marked' : form'.inside ≠ [] → equals' = true)
    (same : name ++ assigned equals form = name' ++ assigned equals' form') :
    name = name' ∧ equals = equals' ∧ form.inside = form'.inside := by
  have cut := congrArg (Text.cut? '=') same
  rw [cut?_long free, cut?_long free'] at cut
  cases equals with
  | false =>
      cases equals' with
      | false =>
          have empty : form.inside = [] := by_contra fun inside => Bool.noConfusion (marked inside)
          have empty' : form'.inside = [] :=
            by_contra fun inside => Bool.noConfusion (marked' inside)
          exact ⟨by simpa [assigned] using same, rfl, by rw [empty, empty']⟩
      | true => cases cut
  | true =>
      cases equals' with
      | false => cases cut
      | true =>
          obtain ⟨names, insides⟩ := Prod.mk.inj (Option.some.inj cut)
          exact ⟨names, rfl, insides⟩

theorem bundle_unique {schema : Schema} {flags flags' : List (CodePoint × Descriptor)}
    {name name' : CodePoint} {option option' : Descriptor} {form form' : Form}
    (found : ∀ flag ∈ flags, schema.findShort? flag.1 = some flag.2 ∧ flag.2.takesValue = false)
    (found' : ∀ flag ∈ flags', schema.findShort? flag.1 = some flag.2 ∧ flag.2.takesValue = false)
    (last : schema.findShort? name = some option) (last' : schema.findShort? name' = some option')
    (fits : form.Fits option) (fits' : form'.Fits option')
    (same : flags.map Prod.fst ++ name :: form.inside =
      flags'.map Prod.fst ++ name' :: form'.inside) :
    flags = flags' ∧ name = name' ∧ form.inside = form'.inside := by
  induction flags generalizing flags' with
  | nil =>
      cases flags' with
      | nil => exact ⟨rfl, List.cons.inj same⟩
      | cons flag others =>
          -- An option that takes no value does not end a bundle before its end.
          obtain ⟨lookup, takesNone⟩ := found' flag List.mem_cons_self
          obtain ⟨names, rest⟩ := List.cons.inj same
          rw [← names, last] at lookup
          rw [← Option.some.inj lookup] at takesNone
          rw [Form.inside_of_flag fits takesNone] at rest
          exact absurd rest.symm (by simp)
  | cons flag others ih =>
      obtain ⟨lookup, takesNone⟩ := found flag List.mem_cons_self
      cases flags' with
      | nil =>
          obtain ⟨names, rest⟩ := List.cons.inj same
          rw [names, last'] at lookup
          rw [← Option.some.inj lookup] at takesNone
          rw [Form.inside_of_flag fits' takesNone] at rest
          exact absurd rest (by simp)
      | cons flag' others' =>
          obtain ⟨lookup', -⟩ := found' flag' List.mem_cons_self
          obtain ⟨names, rest⟩ := List.cons.inj same
          rw [names, lookup'] at lookup
          have flags : flag = flag' := Prod.ext names (Option.some.inj lookup).symm
          obtain ⟨same, ends⟩ := ih (fun flag member => found flag (List.mem_cons_of_mem _ member))
            (fun flag member => found' flag (List.mem_cons_of_mem _ member)) rest
          exact ⟨by rw [flags, same], ends⟩

/-- An item is determined by the arguments that begin with it. -/
theorem Item.eq_of_arguments {schema : Schema} {item item' : Item} (fits : item.Fits schema)
    (fits' : item'.Fits schema) {rest rest' : List Text}
    (same : item.arguments ++ rest = item'.arguments ++ rest') : item = item' := by
  obtain ⟨head, tail⟩ := List.cons.inj same
  have kinds : item.kind = item'.kind := by
    rw [← kindOf_argument fits, ← kindOf_argument fits', head]
  cases item with
  | blank => cases item' <;> first | rfl | cases kinds
  | positional argument =>
      cases item' with
      | positional argument' => rw [show argument = argument' from head]
      | _ => cases kinds
  | long name equals option form =>
      cases item' with
      | long name' equals' option' form' =>
          obtain ⟨-, free, found, fits, marked⟩ := fits
          obtain ⟨-, free', found', fits', marked'⟩ := fits'
          have text := (List.cons.inj (List.cons.inj head).2).2
          obtain ⟨rfl, rfl, inside⟩ := long_unique free free' marked marked' text
          obtain rfl := Option.some.inj (found.symm.trans found')
          rw [Form.eq_of_fits fits fits' inside tail]
      | _ => cases kinds
  | bundle flags name option form =>
      cases item' with
      | bundle flags' name' option' form' =>
          obtain ⟨-, found, last, fits⟩ := fits
          obtain ⟨-, found', last', fits'⟩ := fits'
          have text := (List.cons.inj head).2
          obtain ⟨rfl, rfl, inside⟩ := bundle_unique found found' last last' fits fits' text
          obtain rfl := Option.some.inj (last.symm.trans last')
          rw [Form.eq_of_fits fits fits' inside tail]
      | _ => cases kinds

/-- A command line has at most one derivation. -/
theorem Derives.unique {schema : Schema} {items items' : List Item} {arguments : List Text}
    (derives : Derives schema items arguments) (derives' : Derives schema items' arguments) :
    items = items' := by
  obtain ⟨fits, rfl⟩ := derives
  obtain ⟨fits', same⟩ := derives'
  induction items generalizing items' with
  | nil =>
      cases items' with
      | nil => rfl
      | cons item' others' => cases same
  | cons item others ih =>
      cases items' with
      | nil => cases same
      | cons item' others' =>
          rw [List.forall_mem_cons] at fits fits'
          rw [List.flatMap_cons, List.flatMap_cons] at same
          obtain rfl := Item.eq_of_arguments fits'.1 fits.1 same
          rw [ih fits.2 fits'.2 (List.append_cancel_left same)]

end Startup.Arguments
