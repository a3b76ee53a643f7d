import Fieldbus.Message
import Fieldbus.Text.Quoted

/-! Filters of loggers.  A filter reads `[bus:]id[-id]`, with a decimal bus number and hexadecimal
identifiers, or is a single digit that names a bus.  A logger has at most three of them and records
what any of them admits; without filters it records everything. -/

namespace Fieldbus.Logger

/-- A bus number, if the filter asks for one, and a range of identifiers. -/
structure Filter where
  bus : Option Nat := none
  low : UInt32 := 0
  high : UInt32 := 0xffffffff
deriving DecidableEq, Inhabited

namespace Filter

def ofBus (bus : Nat) : Filter := { bus := some bus }

def splitOnce (separator : Char) : List Char → Option (List Char × List Char)
  | [] => none
  | c :: rest =>
    if c = separator then some ([], rest)
    else (splitOnce separator rest).map fun (before, after) => (c :: before, after)

def range? (text : List Char) : Option (UInt32 × UInt32) :=
  match splitOnce '-' text with
  | some (a, b) => do
    let a ← Numeral.hex32? a
    let b ← Numeral.hex32? b
    some (a.toUInt32, b.toUInt32)
  | none => (Numeral.hex32? text).map fun a => (a.toUInt32, a.toUInt32)

/-- The filter between two identifiers in either order. -/
def between (bus : Option Nat) (ends : UInt32 × UInt32) : Filter :=
  { bus, low := min ends.1 ends.2, high := max ends.1 ends.2 }

def parse? : List Char → Option Filter
  | [digit] => (Numeral.decimal32? [digit]).map ofBus
  | text =>
    match splitOnce ':' text with
    | some (bus, range) => do
      let bus ← Numeral.decimal32? bus
      (range? range).map (between (some bus))
    | none => (range? text).map (between none)

/-- The shortest form: a whole bus is its number, a single identifier stands alone. -/
def text (f : Filter) : List Char :=
  let range :=
    if f.low = f.high then Numeral.hex f.low.toNat
    else Numeral.hex f.low.toNat ++ '-' :: Numeral.hex f.high.toNat
  match f.bus with
  | some bus =>
    if f.low = 0 ∧ f.high = 0xffffffff then Numeral.decimal bus
    else Numeral.decimal bus ++ ':' :: range
  | none => range

/-- Whether the filter admits what bus `origin` says about identifier `id`.  Without an identifier
only the bus counts. -/
def admits (f : Filter) (origin : Option BusName) (id : Option UInt32) : Bool :=
  (match f.bus with
    | some bus => origin.bind BusName.number = some bus
    | none => true)
  && match id with
    | some id => f.low ≤ id && id ≤ f.high
    | none => true

end Filter

inductive FilterError where
  | invalid (spec : String)
  | tooMany (limit : Nat)
deriving DecidableEq, Inhabited

namespace FilterError

def message : FilterError → String
  | invalid spec =>
    let spec := Text.quoted spec
    s!"Invalid filter {spec}"
  | tooMany limit => s!"At most {limit} filters are supported"

end FilterError

def maxFilters : Nat := 3

structure FilterSet where
  filters : List Filter := []
  length_le : filters.length ≤ maxFilters := by decide
deriving DecidableEq

namespace FilterSet

instance : Inhabited FilterSet := ⟨{}⟩

def ofList (filters : List Filter) : Except FilterError FilterSet :=
  if h : filters.length ≤ maxFilters then .ok ⟨filters, h⟩ else .error (.tooMany maxFilters)

/-- Reads filters; the first text that is none is reported before their number. -/
def parse (specs : List String) : Except FilterError FilterSet := do
  let filters ← specs.mapM fun spec =>
    match Filter.parse? spec.toList with
    | some f => .ok f
    | none => .error (.invalid spec)
  ofList filters

/-- Whether a logger with these filters records a message. -/
def admits (s : FilterSet) (m : Message) : Bool :=
  s.filters.isEmpty
    || s.filters.any fun f => f.admits m.origin (m.entry.frame?.map Frame.id)

def text (s : FilterSet) : String :=
  if s.filters.isEmpty then "off"
  else " ".intercalate (s.filters.map fun f => String.ofList f.text)

end FilterSet
end Fieldbus.Logger
