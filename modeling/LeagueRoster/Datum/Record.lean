import LeagueRoster.Datum

/-!
Records, constants and scalars read out of a datum. A record is a map from field names or a
sequence of its fields in order; a constant is its name, or a map from its name to nothing.
Entries under other names are ignored, but a field given twice spoils the record.
-/
namespace LeagueRoster.Datum

/-- What a source of data allows beyond the plain spelling of records and constants. -/
structure Leniency where
  /-- A number may stand for the field or constant at that position. -/
  positions : Bool
  /-- A sequence may be longer than the record it spells. -/
  surplus : Bool
  /-- An empty container may stand for the empty content of a constant. -/
  hollow : Bool
  deriving Repr, DecidableEq

def Leniency.plain : Leniency := ⟨false, false, false⟩

/-- What a record says of one field. -/
inductive Slot where
  | given (value : Datum)
  | missing
  /-- The record is a sequence that ends before the field. -/
  | beyond
  deriving Repr, Inhabited

abbrev Record := String → Slot

def isFieldKey (rules : Leniency) : Datum → Bool
  | .str _ => true
  | .int n => rules.positions && 0 ≤ n
  | _ => false

/-- The key stands for the field of that name and position. -/
def named (rules : Leniency) (name : String) (position : Nat) : Datum → Bool
  | .str s => s == name
  | .int n => rules.positions && n == position
  | _ => false

def record? (rules : Leniency) (names : List String) : Datum → Option Record
  | .map entries =>
    let under (name : String) := entries.filter fun e => named rules name (names.idxOf name) e.1
    if entries.all (isFieldKey rules ·.1) && names.all fun name => (under name).length ≤ 1 then
      some fun name =>
        match under name with
        | e :: _ => .given e.2
        | [] => .missing
    else none
  | .seq items =>
    if items.length ≤ names.length || rules.surplus then
      some fun name =>
        match items[names.idxOf name]? with
        | some d => .given d
        | none => .beyond
    else none
  | _ => none

namespace Slot

variable {α : Type}

def required (read : Datum → Option α) : Slot → Option α
  | given d => read d
  | missing | beyond => none

def orElse (read : Datum → Option α) (fallback : α) : Slot → Option α
  | given d => read d
  | missing | beyond => some fallback

/-- Null and a missing field both say that there is no value. -/
def optional (read : Datum → Option α) : Slot → Option (Option α)
  | given .null => some none
  | given d => (read d).map some
  | missing | beyond => some none

/-- As `optional`, but a sequence has to reach the field. -/
def optionalInReach (read : Datum → Option α) : Slot → Option (Option α)
  | beyond => none
  | slot => slot.optional read

end Slot

def isNothing (rules : Leniency) : Datum → Bool
  | .null => true
  | .seq [] | .map [] => rules.hollow
  | _ => false

/-- One of the given values, spelled by its name. -/
def constant? {α : Type} (rules : Leniency) (all : List α) (name : α → String) :
    Datum → Option α
  | .str s => all.find? fun a => name a == s
  | .map [(key, content)] =>
    if isNothing rules content then
      match key with
      | .str s => all.find? fun a => name a == s
      | .int n => if rules.positions && 0 ≤ n then all[n.toNat]? else none
      | _ => none
    else none
  | _ => none

def bool? : Datum → Option Bool
  | .bool b => some b
  | _ => none

def str? : Datum → Option String
  | .str s => some s
  | _ => none

def natural? (bound : Nat) : Datum → Option Nat
  | .int n => if 0 ≤ n && n ≤ bound then some n.toNat else none
  | _ => none

def uint16? (d : Datum) : Option UInt16 := (d.natural? (UInt16.size - 1)).map UInt16.ofNat

def uint32? (d : Datum) : Option UInt32 := (d.natural? (UInt32.size - 1)).map UInt32.ofNat

def uint64? (d : Datum) : Option UInt64 := (d.natural? (UInt64.size - 1)).map UInt64.ofNat

def int64? : Datum → Option Int64
  | .int n =>
    if Int64.minValue.toInt ≤ n && n ≤ Int64.maxValue.toInt then some (Int64.ofInt n) else none
  | _ => none

def listOf? {α : Type} (read : Datum → Option α) : Datum → Option (List α)
  | .seq items => items.mapM read
  | _ => none

end LeagueRoster.Datum
