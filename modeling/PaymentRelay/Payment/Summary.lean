import PaymentRelay.Json.Record
import PaymentRelay.Decimal.Sum
import PaymentRelay.Payment.Source

/-!
# Summaries

A tally says how many payments a processor took and what they came to; a summary is a tally for each
processor. On the wire the main processor goes by the name `default`.

Counts stop at the greatest 64-bit number, as totals stop at the greatest decimal: a sibling
instance's figures are added without trusting them to be small.
-/

namespace PaymentRelay

/-- How many payments, and what they came to. -/
structure Tally where
  requests : Nat
  amount : Decimal
  requests_lt : requests < Numeral.limit64
deriving DecidableEq, Repr

namespace Tally

/-- A tally whose count stops at the greatest 64-bit number. -/
def upTo (requests : Nat) (amount : Decimal) : Tally :=
  ⟨min requests (Numeral.limit64 - 1), amount, by simp only [Numeral.limit64]; omega⟩

def zero : Tally := upTo 0 .zero

instance : Inhabited Tally := ⟨zero⟩

/-- Both tallies together. -/
def add (a b : Tally) : Tally := upTo (a.requests + b.requests) (a.amount + b.amount)

instance : Add Tally := ⟨add⟩

/-- The tally with `n` more payments, of which `amounts` are the amounts. -/
def count (t : Tally) (amounts : Array Decimal) : Tally :=
  upTo (t.requests + amounts.size) (amounts.foldl (· + ·) t.amount)

def write (t : Tally) : Bytes :=
  utf8 "\x7b\"totalRequests\":" ++ Numeral.ofNat t.requests ++ utf8 ",\"totalAmount\":" ++
    t.amount.render ++ utf8 "\x7d"

/-- The members of a tally that have been found. -/
structure Found where
  requests : Option Nat := none
  amount : Option Decimal := none

def members : List (Json.Member Found) :=
  [⟨"totalRequests", (·.requests.isSome), fun found bs ↦
      (Json.count bs).map fun (n, rest) ↦ ({ found with requests := some n }, rest)⟩,
    ⟨"totalAmount", (·.amount.isSome), fun found bs ↦
      (Json.decimal bs).map fun (d, rest) ↦ ({ found with amount := some d }, rest)⟩]

/-- Reads a tally; it must have both its members. -/
def reader : Json.Reader Tally :=
  Json.record members {} fun found ↦ do
    let requests ← Json.required found.requests
    let amount ← Json.required found.amount
    return upTo requests amount

end Tally

/-- A tally for each processor. -/
abbrev Summary := PerSource Tally

namespace Summary

def zero : Summary := ⟨.zero, .zero⟩

/-- Two instances' summaries as one. -/
def merge (a b : Summary) : Summary := ⟨a.main + b.main, a.fallback + b.fallback⟩

def write (s : Summary) : Bytes :=
  utf8 "\x7b\"default\":" ++ s.main.write ++ utf8 ",\"fallback\":" ++ s.fallback.write ++
    utf8 "\x7d"

/-- The members of a summary that have been found. -/
structure Found where
  main : Option Tally := none
  fallback : Option Tally := none

def members : List (Json.Member Found) :=
  [⟨"default", (·.main.isSome), fun found bs ↦
      (Tally.reader bs).map fun (t, rest) ↦ ({ found with main := some t }, rest)⟩,
    ⟨"fallback", (·.fallback.isSome), fun found bs ↦
      (Tally.reader bs).map fun (t, rest) ↦ ({ found with fallback := some t }, rest)⟩]

/-- Reads a summary; it must have both its members. -/
def reader : Json.Reader Summary :=
  Json.record members {} fun found ↦ do
    let main ← Json.required found.main
    let fallback ← Json.required found.fallback
    return ⟨main, fallback⟩

def read (text : Bytes) : Except Json.Fault Summary := Json.readAll reader text

end Summary

end PaymentRelay
