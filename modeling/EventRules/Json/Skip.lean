/-
Passing over values nobody asks for. A value that is skipped is held to the grammar only: it may
nest to any depth, its numbers may exceed every range, and a surrogate in its strings may stand
alone.
-/
import EventRules.Json.Reader
namespace EventRules.Json

/-- One character of a string that is skipped; a `u` escape needs its four digits and no more. -/
def looseChar : Read Char
  | '\\' :: 'u' :: rest => (hexUnit rest).map fun (_, r) => ('u', r)
  | cs => stringChar cs

/-- A value without brackets, skipped. -/
def skipScalar : Read Unit
  | '"' :: rest => (quotedBy looseChar ('"' :: rest)).map fun (_, r) => ((), r)
  | cs =>
    match cs with
    | 'n' :: 'u' :: 'l' :: 'l' :: rest => some ((), rest)
    | 't' :: 'r' :: 'u' :: 'e' :: rest => some ((), rest)
    | 'f' :: 'a' :: 'l' :: 's' :: 'e' :: rest => some ((), rest)
    | cs => (literal cs).map fun (_, r) => ((), r)

/-- A value whose brackets nest at most `depth` deep, skipped. -/
def skipTo : Nat → Read Unit
  | 0, cs => skipScalar (skipBlanks cs)
  | depth + 1, cs =>
    match skipBlanks cs with
    | '[' :: rest => (enclosed (skipTo depth) ']' rest).map fun (_, r) => ((), r)
    | '\x7b' :: rest =>
      (enclosed (member (quotedBy looseChar) fun _ => skipTo depth) '\x7d' rest).map
        fun (_, r) => ((), r)
    | cs => skipScalar cs

/-- A value of any depth, skipped. -/
def skip : Read Unit := fun cs => skipTo cs.length cs

end EventRules.Json
