import Mathlib.Algebra.Group.Nat.Even
import ToolHost.Proofs.CommandLine.Segments

/-! Two lines with a space between them. The scanner reads the second one as a line of its own exactly
when no quotation is open behind the first, and for that its quotes only have to be counted. -/
namespace ToolHost.CommandLine

/-- How many quotes of a line open or close something. One that a backslash takes along does not. -/
def quoteMarks (line : List Char) : Nat := (signs line).count .delimiter

theorem quoteMarks_escaped (rest : List Char) : quoteMarks ('\\' :: '"' :: rest) = quoteMarks rest := by
  simp [quoteMarks, signs]

theorem quoteMarks_quote (rest : List Char) : quoteMarks ('"' :: rest) = quoteMarks rest + 1 := by
  simp [quoteMarks, signs]

theorem quoteMarks_space (rest : List Char) : quoteMarks (' ' :: rest) = quoteMarks rest := by
  simp [quoteMarks, signs]

theorem quoteMarks_other {c : Char} {rest : List Char}
    (hescape : ∀ tail, c = '\\' → rest = '"' :: tail → False) (hquote : c ≠ '"') (hspace : c ≠ ' ') :
    quoteMarks (c :: rest) = quoteMarks rest := by
  rw [quoteMarks, signs]
  · simp [quoteMarks]
  · exact hescape
  · exact hquote
  · exact hspace

/-- Where the scanner is behind a line: what it has given, the argument in progress, and whether that
stands between quotes. None of this depends on what comes behind the space. -/
structure Behind (quoted : Bool) (word line : List Char) (given : List (List Char)) (inside : Bool)
    (pending : List Char) : Prop where
  ended : scan quoted word line = given ++ scan inside pending []
  goesOn : ∀ later, scan quoted word (line ++ ' ' :: later) = given ++ scan inside pending (' ' :: later)

namespace Behind
variable {quoted quoted' inside : Bool} {word word' line line' pending : List Char}
  {given : List (List Char)}

/-- A step that gives nothing. -/
theorem step (h : Behind quoted' word' line' given inside pending)
    (hend : scan quoted word line = scan quoted' word' line')
    (hgo : ∀ later, scan quoted word (line ++ ' ' :: later) = scan quoted' word' (line' ++ ' ' :: later)) :
    Behind quoted word line given inside pending where
  ended := hend.trans h.ended
  goesOn later := (hgo later).trans (h.goesOn later)

/-- A step that gives an argument. -/
theorem give {arg : List Char} (h : Behind quoted' word' line' given inside pending)
    (hend : scan quoted word line = arg :: scan quoted' word' line')
    (hgo : ∀ later, scan quoted word (line ++ ' ' :: later) =
      arg :: scan quoted' word' (line' ++ ' ' :: later)) :
    Behind quoted word line (arg :: given) inside pending where
  ended := by rw [hend, h.ended, List.cons_append]
  goesOn later := by rw [hgo, h.goesOn, List.cons_append]

end Behind

/-- Behind a line a quotation is open if its quotes, with one that was open before it, are odd in
number. -/
theorem exists_behind (quoted : Bool) (word line : List Char) :
    ∃ given inside pending, Behind quoted word line given inside pending ∧
      inside.toNat = (quoteMarks line + quoted.toNat) % 2 := by
  fun_induction scan quoted word line with
  | case1 quoted word hw | case2 quoted word hw =>
    refine ⟨[], quoted, word, ⟨rfl, fun later => rfl⟩, ?_⟩
    cases quoted <;> rfl
  | case3 quoted word rest ih =>
    obtain ⟨given, inside, pending, hbehind, hinside⟩ := ih
    refine ⟨given, inside, pending, hbehind.step (scan_escaped ..) fun later => scan_escaped .., ?_⟩
    rw [hinside, quoteMarks_escaped]
  | case4 word rest ih =>
    obtain ⟨given, inside, pending, hbehind, hinside⟩ := ih
    refine ⟨_, inside, pending, hbehind.give (scan_close ..) fun later => scan_close .., ?_⟩
    rw [hinside, quoteMarks_quote, Bool.toNat_true, Bool.toNat_false]
    omega
  | case5 quoted word rest hq ih =>
    rw [Bool.not_eq_true] at hq
    subst hq
    obtain ⟨given, inside, pending, hbehind, hinside⟩ := ih
    refine ⟨given, inside, pending, hbehind.step (scan_open ..) fun later => scan_open .., ?_⟩
    rw [hinside, quoteMarks_quote, Bool.toNat_true, Bool.toNat_false]
  | case6 word rest ih =>
    obtain ⟨given, inside, pending, hbehind, hinside⟩ := ih
    have hplain (line : List Char) : scan true word (' ' :: line) = scan true (' ' :: word) line :=
      scan_plain (by decide) (.inl rfl) (by simp) word
    refine ⟨given, inside, pending, hbehind.step (hplain _) fun later => hplain _, ?_⟩
    rw [hinside, quoteMarks_space]
  | case7 quoted word rest hq hw ih =>
    rw [Bool.not_eq_true] at hq
    subst hq
    obtain rfl := List.isEmpty_iff.mp hw
    obtain ⟨given, inside, pending, hbehind, hinside⟩ := ih
    refine ⟨given, inside, pending, hbehind.step (scan_space _) fun later => scan_space _, ?_⟩
    rw [hinside, quoteMarks_space]
  | case8 quoted word rest hq hw ih =>
    rw [Bool.not_eq_true] at hq
    subst hq
    have hne : word ≠ [] := by simpa using hw
    obtain ⟨given, inside, pending, hbehind, hinside⟩ := ih
    refine ⟨_, inside, pending, hbehind.give (scan_space_of_ne_nil hne _) fun later =>
      scan_space_of_ne_nil hne _, ?_⟩
    rw [hinside, quoteMarks_space]
  | case9 quoted word c rest hescape hquote hspace ih =>
    obtain ⟨given, inside, pending, hbehind, hinside⟩ := ih
    have hhead : c = '\\' → rest.head? ≠ some '"' := by
      intro hc hhead
      obtain ⟨tail, rfl⟩ := List.head?_eq_some_iff.mp hhead
      exact hescape tail hc rfl
    have hplain : scan quoted word (c :: rest) = scan quoted (c :: word) rest :=
      scan_plain hquote (.inr hspace) hhead word
    have hplainOn (later : List Char) : scan quoted word (c :: (rest ++ ' ' :: later)) =
        scan quoted (c :: word) (rest ++ ' ' :: later) := by
      refine scan_plain hquote (.inr hspace) (fun hc => ?_) word
      -- the space itself is no quote, so a backslash at the end of the line stays a character
      cases rest with
      | nil => simp
      | cons d rest => simpa using hhead hc
    refine ⟨given, inside, pending, hbehind.step hplain hplainOn, ?_⟩
    rw [hinside, quoteMarks_other hescape hquote hspace]

/-- Outside quotes a space ends what is in progress, as the end of the line does. -/
theorem scan_false_space (word later : List Char) :
    scan false word (' ' :: later) = scan false word [] ++ scan false [] later := by
  cases word with
  | nil => exact scan_space later
  | cons c word =>
    have hne : c :: word ≠ [] := List.cons_ne_nil c word
    rw [scan_space_of_ne_nil hne, scan_end_of_ne_nil hne, List.singleton_append]

/-- Between quotes it joins what is in progress. -/
theorem scan_true_space_ne (word : List Char) : scan true word [' '] ≠ scan true word [] := by
  have hspace : scan true word [' '] = [word.reverse ++ [' ']] := by simp [scan]
  rw [hspace]
  cases word with
  | nil => simp [scan]
  | cons c word => simp [scan]

/-- A space divides a line into two whose arguments are those of the line, whatever stands behind it,
if and only if an even number of quotes before it open or close something. -/
theorem tokenize_append_space_iff (line : String) :
    (∀ later, tokenize (line ++ " " ++ later) = tokenize line ++ tokenize later) ↔
      Even (quoteMarks line.toList) := by
  obtain ⟨given, inside, pending, hbehind, hinside⟩ := exists_behind false [] line.toList
  rw [Bool.toNat_false, Nat.add_zero] at hinside
  have hjoined (later : String) : tokenize (line ++ " " ++ later) =
      (given ++ scan inside pending (' ' :: later.toList)).map String.ofList := by
    have hchars : (line ++ " " ++ later).toList = line.toList ++ ' ' :: later.toList := by simp
    rw [tokenize, hchars, hbehind.goesOn]
  have hline : tokenize line = (given ++ scan inside pending []).map String.ofList := by
    rw [tokenize, hbehind.ended]
  constructor
  · intro h
    rw [Nat.even_iff]
    cases inside with
    | false => exact hinside.symm
    | true =>
      -- a space that nothing follows is enough to tell them apart
      have hempty := h ""
      rw [hjoined, hline, tokenize_empty, List.append_nil] at hempty
      have hscans := List.map_injective_iff.mpr (fun _ _ => String.ofList_injective) hempty
      exact absurd (List.append_cancel_left hscans) (scan_true_space_ne pending)
  · intro h later
    have houtside : inside = false := by
      rw [Nat.even_iff] at h
      cases inside with
      | false => rfl
      | true =>
        rw [h] at hinside
        cases hinside
    rw [hjoined, hline, houtside, scan_false_space, ← List.append_assoc, List.map_append]
    rfl

example : tokenize ("a \"b \\\" c\" d\\" ++ " " ++ "\"\" e") =
    ["a", "b \" c", "d\\"] ++ ["", "e"] := by
  decide +kernel

end ToolHost.CommandLine
