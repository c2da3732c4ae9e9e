import PaymentRelay.Text.Extending
import PaymentRelay.Text.Unprintable

/-!
# Quoted text

The form in which a text from outside is shown in a message: between double quotes, with everything
escaped that could end the quotation, move the cursor, hide or attach itself to its neighbour. All
other characters of all scripts stand for themselves.
-/

namespace PaymentRelay.Text

/-- Searches the ordered runs from `low` up to but not including `high` for one that holds `n`. -/
def inRuns (runs : Array (Nat × Nat)) (n low high : Nat) : Bool :=
  if _h : low < high then
    let middle := (low + high) / 2
    match runs[middle]? with
    | none => false
    | some (first, last) =>
      if n < first then inRuns runs n low middle
      else if last < n then inRuns runs n (middle + 1) high
      else true
  else false
termination_by high - low
decreasing_by all_goals omega

def hidden (c : Char) : Bool :=
  inRuns extending c.toNat 0 extending.size || inRuns unprintable c.toNat 0 unprintable.size

def quoteChar (c : Char) : List Char :=
  match c with
  | '\x00' => ['\\', '0']
  | '\t' => ['\\', 't']
  | '\r' => ['\\', 'r']
  | '\n' => ['\\', 'n']
  | '\\' => ['\\', '\\']
  | '"' => ['\\', '"']
  | c =>
    if hidden c then ['\\', 'u', '\x7b'] ++ Nat.toDigits 16 c.toNat ++ ['\x7d'] else [c]

/-- The quotation of a text. -/
def quote (s : String) : String := String.ofList ('"' :: (s.toList.flatMap quoteChar ++ ['"']))

end PaymentRelay.Text
