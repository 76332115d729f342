import Startup.Proofs.Arguments.Scan
import Startup.Proofs.OrderedMap
import Mathlib.Data.List.Nodup
import Mathlib.Data.List.Perm.Basic

/-!
# Command lines that are written for a request

A request names flags, values for other options, and positional arguments. Written down, each flag
is one argument and each value stands in the argument after its option, whatever it looks like; these
pieces and the positional arguments may come in any order that keeps the latter in theirs. Where no
two options share a name, reading such a command line gives the request back.
-/

namespace Startup.Arguments

/-! ## Schemas whose options can be told apart -/

theorem matchesName_iff {option : Descriptor} {name : Text} :
    option.matchesName name = true ↔ name ≠ [] ∧ (name = option.short ∨ name = option.long) := by
  simp [Descriptor.matchesName]

theorem matchesName_long {option : Descriptor} (named : option.long ≠ []) :
    option.matchesName option.long = true :=
  matchesName_iff.mpr ⟨named, Or.inr rfl⟩

theorem matchesName_short {option : Descriptor} {name : CodePoint}
    (named : option.short? = some name) : option.matchesName [name] = true := by
  rw [matchesName_iff, Descriptor.short, named]
  exact ⟨List.cons_ne_nil _ _, Or.inl rfl⟩

theorem matchesName_key (option : Descriptor) : option.matchesName option.key = true := by
  unfold Descriptor.key
  split
  next unnamed =>
    obtain ⟨name, found⟩ := Option.isSome_iff_exists.mp (option.named.resolve_right (· unnamed))
    rw [Descriptor.short, found]
    exact matchesName_short found
  next named => exact matchesName_long named

namespace Schema

/-- Whether no two options share a name, be it a short or a long one. -/
def Apart (schema : Schema) : Prop :=
  schema.Pairwise fun option other =>
    ∀ name, option.matchesName name = true → other.matchesName name = false

instance (schema : Schema) : Decidable schema.Apart :=
  decidable_of_iff
    (schema.Pairwise fun option other => ∀ name ∈ [option.short, option.long],
      option.matchesName name = true → other.matchesName name = false)
    (List.Pairwise.iff fun option other => by
      constructor
      · intro separate name named
        refine separate name ?_ named
        rcases (matchesName_iff.mp named).2 with same | same <;> simp [same]
      · exact fun separate name _ => separate name)

/-- A schema whose options can be named without being mistaken for one another or for something
else. -/
structure Readable (schema : Schema) : Prop where
  apart : schema.Apart
  long : ∀ option ∈ schema, CodePoint.ofChar '=' ∉ option.long
  short : ∀ option ∈ schema, option.short? ≠ some (CodePoint.ofChar '-')

variable {schema : Schema} {option other : Descriptor}

theorem Apart.eq_of_matchesName (apart : schema.Apart) (known : option ∈ schema)
    (known' : other ∈ schema) {name : Text} (named : option.matchesName name = true)
    (named' : other.matchesName name = true) : option = other := by
  induction schema with
  | nil => cases known
  | cons first rest ih =>
      obtain ⟨separate, apart⟩ := List.pairwise_cons.mp apart
      rcases List.mem_cons.mp known with rfl | later
      · rcases List.mem_cons.mp known' with rfl | later'
        · rfl
        · exact absurd named' (Bool.eq_false_iff.mp (separate other later' name named))
      · rcases List.mem_cons.mp known' with rfl | later'
        · exact absurd named (Bool.eq_false_iff.mp (separate option later name named'))
        · exact ih apart later later'

/-- A search for an option by something that only options with its name have finds it. -/
theorem Apart.find?_eq (apart : schema.Apart) (known : option ∈ schema) {name : Text}
    (named : option.matchesName name = true) {test : Descriptor → Bool} (passes : test option = true)
    (sound : ∀ other, test other = true → other.matchesName name = true) :
    List.find? test schema = some option := by
  cases found : List.find? test schema with
  | none => exact absurd passes (List.find?_eq_none.mp found option known)
  | some other =>
      have named' := sound other (List.find?_some found)
      rw [apart.eq_of_matchesName known (List.mem_of_find?_eq_some found) named named']

theorem Apart.findLong?_eq (apart : schema.Apart) (known : option ∈ schema)
    (named : option.long ≠ []) : schema.findLong? option.long = some option := by
  refine apart.find?_eq known (matchesName_long named) (by simp [named]) fun other test => ?_
  rw [Bool.and_eq_true, decide_eq_true_eq, beq_iff_eq] at test
  exact matchesName_iff.mpr ⟨test.1, Or.inr test.2.symm⟩

theorem Apart.findShort?_eq (apart : schema.Apart) (known : option ∈ schema) {name : CodePoint}
    (named : option.short? = some name) : schema.findShort? name = some option := by
  refine apart.find?_eq known (matchesName_short named) (by simp [named]) fun other test => ?_
  exact matchesName_short (beq_iff_eq.mp test)

theorem Apart.eq_of_key (apart : schema.Apart) (known : option ∈ schema) (known' : other ∈ schema)
    (same : option.key = other.key) : option = other :=
  apart.eq_of_matchesName known known' (matchesName_key option) (same ▸ matchesName_key other)

end Schema

/-! ## Requests -/

structure Request where
  flags : List Descriptor
  values : List (Descriptor × Text)
  positionals : List Text

namespace Request

def bindings (request : Request) : List (Text × Text) :=
  request.flags.map (fun option => (option.key, flagValue)) ++
    request.values.map fun pair => (pair.1.key, pair.2)

/-- Whether a schema admits a request. -/
structure Fits (schema : Schema) (request : Request) : Prop where
  flags : ∀ option ∈ request.flags, option ∈ schema ∧ option.takesValue = false
  values : ∀ pair ∈ request.values,
    pair.1 ∈ schema ∧ pair.1.takesValue = true ∧ pair.1.accepts pair.2 = true
  flagsOnce : request.flags.Nodup
  valuesOnce : (request.values.map Prod.fst).Nodup
  complete : ∀ option ∈ schema, option.required = true →
    option ∈ request.flags ∨ option ∈ request.values.map Prod.fst
  positionals : ∀ argument ∈ request.positionals,
    argument = [CodePoint.ofChar '-'] ∨
      argument ≠ [] ∧ argument.head? ≠ some (CodePoint.ofChar '-')

/-- No key is to be stored twice. -/
theorem Fits.nodup_keys {schema : Schema} {request : Request} (apart : schema.Apart)
    (fits : request.Fits schema) : (request.bindings.map Prod.fst).Nodup := by
  have keys : request.bindings.map Prod.fst =
      (request.flags ++ request.values.map Prod.fst).map Descriptor.key := by
    simp [bindings, Function.comp_def]
  have known : ∀ option ∈ request.flags ++ request.values.map Prod.fst, option ∈ schema := by
    intro option member
    rcases List.mem_append.mp member with flag | valued
    · exact (fits.flags option flag).1
    · obtain ⟨pair, inside, rfl⟩ := List.mem_map.mp valued
      exact (fits.values pair inside).1
  rw [keys]
  refine List.Nodup.map_on (fun option member other member' =>
    apart.eq_of_key (known option member) (known other member')) ?_
  refine List.Nodup.append fits.flagsOnce fits.valuesOnce fun option flag valued => ?_
  obtain ⟨pair, inside, rfl⟩ := List.mem_map.mp valued
  exact absurd ((fits.flags _ flag).2.symm.trans (fits.values pair inside).2.1) Bool.noConfusion

end Request

/-! ## Pieces of a command line -/

inductive Naming where
  | long
  | short (name : CodePoint)

namespace Naming

def Fits (option : Descriptor) : Naming → Prop
  | long => option.long ≠ []
  | short name => option.short? = some name

def argument (option : Descriptor) : Naming → Text
  | long => "--" ++ option.long
  | short name => "-" ++ [name]

def item (option : Descriptor) (form : Form) : Naming → Item
  | long => .long option.long false option form
  | short name => .bundle [] name option form

variable {schema : Schema} {option : Descriptor} {form : Form} {naming : Naming}

theorem fits_item (readable : schema.Readable) (known : option ∈ schema)
    (named : naming.Fits option) (fits : form.Fits option) (outside : form.inside = []) :
    (naming.item option form).Fits schema := by
  cases naming with
  | long =>
      exact ⟨named, readable.long option known, readable.apart.findLong?_eq known named, fits,
        fun inside => absurd outside inside⟩
  | short name =>
      have noDash : name ≠ CodePoint.ofChar '-' := fun same =>
        readable.short option known (same ▸ named)
      exact ⟨fun same => noDash (Option.some.inj same), fun flag impossible =>
        absurd impossible List.not_mem_nil, readable.apart.findShort?_eq known named, fits⟩

theorem arguments_item (outside : form.inside = []) :
    (naming.item option form).arguments = naming.argument option :: form.following := by
  cases naming with
  | long =>
      rw [item, Item.arguments, Item.argument, assigned, if_neg Bool.false_ne_true,
        List.append_nil]
      rfl
  | short name =>
      rw [item, Item.arguments, Item.argument, outside]
      rfl

theorem bindings_item : (naming.item option form).bindings = [(option.key, form.value)] := by
  cases naming <;> rfl

theorem positionals_item : (naming.item option form).positionals = [] := by
  cases naming <;> rfl

end Naming

inductive Piece where
  | positional (argument : Text)
  | flag (option : Descriptor) (naming : Naming)
  | valued (option : Descriptor) (naming : Naming) (value : Text)

namespace Piece

def arguments : Piece → List Text
  | positional argument => [argument]
  | flag option naming => [naming.argument option]
  | valued option naming value => [naming.argument option, value]

def Named : Piece → Prop
  | positional _ => True
  | flag option naming => naming.Fits option
  | valued option naming _ => naming.Fits option

def flag? : Piece → Option Descriptor
  | flag option _ => some option
  | _ => none

/-- The option that a piece gives a value to, if any, and that value. -/
def value? : Piece → Option (Descriptor × Text)
  | valued option _ value => some (option, value)
  | _ => none

def positional? : Piece → Option Text
  | positional argument => some argument
  | _ => none

def item : Piece → Item
  | positional argument => .positional argument
  | flag option naming => naming.item option .flag
  | valued option naming value => naming.item option (.separate value)

theorem arguments_item (piece : Piece) : piece.item.arguments = piece.arguments := by
  cases piece with
  | positional argument => rfl
  | flag option naming => exact Naming.arguments_item rfl
  | valued option naming value => exact Naming.arguments_item rfl

end Piece

/-- Pieces that say together what is requested, in any order that keeps the positional arguments in
theirs, and the command line that they make. -/
structure Renders (request : Request) (pieces : List Piece) (arguments : List Text) : Prop where
  named : ∀ piece ∈ pieces, piece.Named
  flags : (pieces.filterMap Piece.flag?).Perm request.flags
  values : (pieces.filterMap Piece.value?).Perm request.values
  positionals : pieces.filterMap Piece.positional? = request.positionals
  spells : pieces.flatMap Piece.arguments = arguments

/-! ## Reading the pieces -/

/-- What the pieces store are their flags and values. -/
theorem perm_bindings (pieces : List Piece) :
    ((pieces.map Piece.item).flatMap Item.bindings).Perm
      (Request.bindings ⟨pieces.filterMap Piece.flag?, pieces.filterMap Piece.value?, []⟩) := by
  induction pieces with
  | nil => exact .refl _
  | cons piece pieces ih =>
      rw [List.map_cons, List.flatMap_cons]
      cases piece with
      | positional argument => exact ih
      | flag option naming =>
          rw [Piece.item, Naming.bindings_item]
          exact ih.cons _
      | valued option naming value =>
          rw [Piece.item, Naming.bindings_item]
          exact (ih.cons _).trans List.perm_middle.symm

theorem positionals_items (pieces : List Piece) :
    (pieces.map Piece.item).flatMap Item.positionals = pieces.filterMap Piece.positional? := by
  induction pieces with
  | nil => rfl
  | cons piece pieces ih =>
      rw [List.map_cons, List.flatMap_cons, ih]
      cases piece with
      | positional argument => rfl
      | flag option naming => rw [Piece.item, Naming.positionals_item]; rfl
      | valued option naming value => rw [Piece.item, Naming.positionals_item]; rfl

section Reading

variable {schema : Schema} {request : Request} {pieces : List Piece} {arguments : List Text}

theorem Renders.bindings_perm (renders : Renders request pieces arguments) :
    ((pieces.map Piece.item).flatMap Item.bindings).Perm request.bindings := by
  have flags := renders.flags.map fun option => (option.key, flagValue)
  have values := renders.values.map fun pair : Descriptor × Text => (pair.1.key, pair.2)
  exact (perm_bindings pieces).trans (flags.append values)

variable (readable : schema.Readable) (fits : request.Fits schema)
  (renders : Renders request pieces arguments)

include fits renders

theorem Renders.complete : Complete schema (pieces.map Piece.item) := by
  intro option known required
  have requested : ∃ value, (option.key, value) ∈ request.bindings := by
    rcases fits.complete option known required with flag | valued
    · exact ⟨flagValue, List.mem_append_left _ (List.mem_map.mpr ⟨option, flag, rfl⟩)⟩
    · obtain ⟨pair, inside, rfl⟩ := List.mem_map.mp valued
      exact ⟨pair.2, List.mem_append_right _ (List.mem_map.mpr ⟨pair, inside, rfl⟩)⟩
  obtain ⟨value, member⟩ := requested
  obtain ⟨item, inside, bound⟩ :=
    List.mem_flatMap.mp (renders.bindings_perm.mem_iff.mpr member)
  exact ⟨item, inside, value, bound⟩

include readable

theorem Renders.derives : Derives schema (pieces.map Piece.item) arguments where
  fits item member := by
    obtain ⟨piece, inside, rfl⟩ := List.mem_map.mp member
    have named := renders.named piece inside
    cases piece with
    | positional argument =>
        apply fits.positionals
        rw [← renders.positionals]
        exact List.mem_filterMap.mpr ⟨_, inside, rfl⟩
    | flag option naming =>
        obtain ⟨known, flag⟩ := fits.flags option
          (renders.flags.mem_iff.mp (List.mem_filterMap.mpr ⟨_, inside, rfl⟩))
        exact Naming.fits_item readable known named flag rfl
    | valued option naming value =>
        obtain ⟨known, accepted⟩ := fits.values (option, value)
          (renders.values.mem_iff.mp (List.mem_filterMap.mpr ⟨_, inside, rfl⟩))
        exact Naming.fits_item readable known named accepted rfl
  spells := by
    rw [← renders.spells, List.flatMap_map]
    exact congrArg (List.flatMap · pieces) (funext Piece.arguments_item)

end Reading

/-- A command line that is written for a request is accepted, and gives exactly the values and the
positional arguments of the request. -/
theorem parse_of_renders {schema : Schema} (readable : schema.Readable) {request : Request}
    (fits : request.Fits schema) {pieces : List Piece} {arguments : List Text}
    (renders : Renders request pieces arguments) :
    ∃ collected, parse schema arguments = (collected, none) ∧
      collected.values.entries.Perm request.bindings ∧
      collected.positional = request.positionals := by
  have perm := renders.bindings_perm
  have nodup := (perm.map Prod.fst).nodup_iff.mpr (fits.nodup_keys readable.apart)
  have scanned : scan schema .empty arguments = (meaning (pieces.map Piece.item), none) :=
    scan_eq_iff.mpr ⟨_, renders.derives readable fits, (meaning_eq_foldl _).symm⟩
  refine ⟨meaning (pieces.map Piece.item), ?_, ?_, ?_⟩
  · exact parse_eq_iff.mpr ⟨scanned, missing?_meaning_eq_none_iff.mpr (renders.complete fits)⟩
  · rw [meaning, OrderedMap.entries_ofList nodup]
    exact perm
  · exact (positionals_items pieces).trans renders.positionals

/-- A schema with a flag that has no long name, an option that is required, and one that has no
short name. -/
def sparseSchema : Schema :=
  [{ short? := some 'q', long := [], description := [], takesValue := false, required := false,
     defaultValue := [], validator? := none, named := Or.inl rfl },
   { short? := some 'l', long := "limit", description := [], takesValue := true, required := true,
     defaultValue := [], validator? := some fun value => value.length ≤ 3, named := Or.inl rfl },
   { short? := none, long := "out", description := [], takesValue := true, required := false,
     defaultValue := [], validator? := none, named := Or.inr (by decide) }]

/-- An empty value, and one that looks like an option. -/
theorem parse_sparseSchema :
    ∃ collected, parse sparseSchema ["--out", "-q", "-", "-l", "", "in", "-q"] =
        (collected, none) ∧
      collected.values.entries.Perm [("q", "true"), ("limit", ""), ("out", "-q")] ∧
      collected.positional = ["-", "in"] := by
  have readable : Schema.Readable sparseSchema := ⟨by decide, by decide, by decide⟩
  let request : Request :=
    ⟨[sparseSchema[0]], [(sparseSchema[1], []), (sparseSchema[2], "-q")], ["-", "in"]⟩
  have fits : request.Fits sparseSchema :=
    { flags := by
        intro option member
        cases List.mem_singleton.mp member
        exact ⟨List.getElem_mem _, rfl⟩
      values := by
        intro pair member
        rcases List.mem_pair.mp member with rfl | rfl
        · exact ⟨List.getElem_mem _, rfl, rfl⟩
        · exact ⟨List.getElem_mem _, rfl, rfl⟩
      flagsOnce := List.nodup_singleton _
      valuesOnce := by
        have different : sparseSchema[1] ≠ sparseSchema[2] := fun same =>
          absurd (congrArg Descriptor.long same) (by decide)
        exact List.nodup_cons.mpr ⟨by simpa using different, List.nodup_singleton _⟩
      complete := by
        intro option known required
        rcases List.mem_cons.mp known with rfl | later
        · cases required
        rcases List.mem_pair.mp later with rfl | rfl
        · exact Or.inr List.mem_cons_self
        · cases required
      positionals := by decide }
  have renders : Renders request
      [.valued sparseSchema[2] .long "-q", .positional "-", .valued sparseSchema[1] (.short 'l') [],
        .positional "in", .flag sparseSchema[0] (.short 'q')]
      ["--out", "-q", "-", "-l", "", "in", "-q"] :=
    { named := by
        have long : sparseSchema[2].long ≠ [] := by decide
        simp only [List.forall_mem_cons]
        exact ⟨long, trivial, rfl, trivial, rfl, List.forall_mem_nil _⟩
      flags := .refl _
      values := .swap _ _ _
      positionals := rfl
      spells := rfl }
  exact parse_of_renders readable fits renders

end Startup.Arguments
