import ToolHost.Json.Fault

/-! Readers that use up some of their text. What repeats such a reader ends. -/
namespace ToolHost.Json

/-- Reads a value from the front of a text, which is longer than what is left of it. -/
structure Reader (α : Type) where
  read : List Char → Reading α
  shortens : ∀ {text rest : List Char} {a : α},
    read text = .ok (a, rest) → rest.length < text.length

namespace Reader

variable {α β : Type}

/-- Judges a value that was read, knowing the text behind it. -/
def check (reader : Reader α) (judge : α → List Char → Except Fault β) : Reader β where
  read text :=
    match reader.read text with
    | .error fault => .error fault
    | .ok (a, rest) => (judge a rest).map fun b => (b, rest)
  shortens {text rest b} h := by
    split at h
    · cases h
    · rename_i a left hr
      match hj : judge a left, h with
      | .ok _, h =>
        cases h
        exact reader.shortens hr

def map (f : α → β) (reader : Reader α) : Reader β := reader.check fun a _ => .ok (f a)

end Reader

end ToolHost.Json
