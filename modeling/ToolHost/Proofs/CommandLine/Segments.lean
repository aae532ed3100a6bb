import Mathlib.Data.List.Basic
import ToolHost.Proofs.CommandLine.Scanning

/-! A second account of how a command line comes apart, without a scanner and its mode. The line is
read into signs, the delimiters among them cut it into segments, and every second segment stands
between quotes. The arguments are found segment by segment, and are those of the scanner. -/
namespace ToolHost.CommandLine

/-- What stands at a place of a line, be it between quotes or not. -/
inductive Sign where
  /-- A character like any other, also a quote that has a backslash before it. -/
  | letter (c : Char)
  | space
  /-- A quote that opens or closes. -/
  | delimiter
  deriving DecidableEq, Repr

/-- The signs of a line from left to right. A backslash and the quote behind it are one of them. -/
def signs : List Char → List Sign
  | [] => []
  | '\\' :: '"' :: rest => .letter '"' :: signs rest
  | '"' :: rest => .delimiter :: signs rest
  | ' ' :: rest => .space :: signs rest
  | c :: rest => .letter c :: signs rest

/-- The character that a sign adds to an argument. -/
def Sign.char? : Sign → Option Char
  | letter c => some c
  | space => some ' '
  | delimiter => none

/-- The signs between two delimiters, or between one and an end of the line. -/
abbrev Segment := List Sign

namespace Segment

/-- What a segment adds to an argument between quotes. -/
def text (segment : Segment) : List Char := segment.filterMap Sign.char?

/-- What stands between the spaces of a segment, empty words too. -/
def words (segment : Segment) : List (List Char) := (segment.splitOn .space).map text

/-- The word that touches the delimiter behind a segment. -/
def lastWord (segment : Segment) : List Char := segment.words.getLast?.getD []

end Segment

/-- Those of some words that are arguments even if no quote closes them. -/
def nonempty (words : List (List Char)) : List (List Char) := words.filter (· ≠ [])

/-- The arguments of segments, of which the first one stands outside quotes, the second one between
quotes, and so on. A word that touches an opening quote is where the quoted argument begins. A
quotation that is closed is an argument even if it is empty; the one that is open at the end of the
line is one if it is not. -/
def arguments : List Segment → List (List Char)
  | [] => []
  | [bare] => nonempty bare.words
  | [bare, quoted] => nonempty bare.words.dropLast ++ nonempty [bare.lastWord ++ quoted.text]
  | bare :: quoted :: next :: rest =>
    nonempty bare.words.dropLast ++ (bare.lastWord ++ quoted.text) :: arguments (next :: rest)

/-- The arguments of a line of signs. -/
def argumentsOf (line : List Sign) : List (List Char) := arguments (line.splitOn .delimiter)

/-- What comes of the last word of a segment outside quotes and of the segments behind it. -/
def continued (word : List Char) : List Segment → List (List Char)
  | [] => nonempty [word]
  | [quoted] => nonempty [word ++ quoted.text]
  | quoted :: next :: rest => (word ++ quoted.text) :: arguments (next :: rest)

/-- Characters that have been read already. -/
def letters (word : List Char) : List Sign := word.map .letter

/-- The signs of an argument in progress, with the quote that is open before it. -/
def inProgress (quoted : Bool) (word : List Char) : List Sign :=
  if quoted then .delimiter :: letters word.reverse else letters word.reverse

theorem splitOn_append_of_not_mem [BEq α] [LawfulBEq α] {a : α} {l l' first : List α}
    {more : List (List α)} (h : a ∉ l) (hsplit : l'.splitOn a = first :: more) :
    (l ++ l').splitOn a = (l ++ first) :: more := by
  induction l with
  | nil => exact hsplit
  | cons b l ih =>
    rw [List.mem_cons, not_or] at h
    have hb : (b == a) = false := by simpa using Ne.symm h.1
    rw [List.cons_append, List.splitOn_cons_eq_if_modifyHead, hb, ih h.2]
    rfl

theorem delimiter_not_mem_letters (word : List Char) : Sign.delimiter ∉ letters word := by
  simp [letters]

theorem space_not_mem_letters (word : List Char) : Sign.space ∉ letters word := by
  simp [letters]

namespace Segment

theorem text_append (a b : Segment) : text (a ++ b) = text a ++ text b := List.filterMap_append

theorem text_letters (word : List Char) : text (letters word) = word := by
  induction word with
  | nil => rfl
  | cons c word ih => exact congrArg (c :: ·) ih

theorem words_ne_nil (segment : Segment) : segment.words ≠ [] := by
  rw [words, ne_eq, List.map_eq_nil_iff]
  exact List.splitOn_ne_nil _ _

/-- Characters alone are one word. -/
theorem words_letters (word : List Char) : words (letters word) = [word] := by
  rw [words, List.splitOn_eq_singleton (space_not_mem_letters word), List.map_singleton,
    text_letters]

/-- A space ends the word before it. -/
theorem words_letters_append (word : List Char) (segment : Segment) :
    words (letters word ++ .space :: segment) = word :: segment.words := by
  rw [words, List.splitOn_append_cons_self_of_not_mem (space_not_mem_letters word), List.map_cons,
    text_letters]
  rfl

theorem dropLast_words_append (segment : Segment) :
    segment.words.dropLast ++ [segment.lastWord] = segment.words := by
  have hne := segment.words_ne_nil
  rw [lastWord, List.getLast?_eq_some_getLast hne, Option.getD_some,
    List.dropLast_append_getLast hne]

theorem lastWord_letters (word : List Char) : lastWord (letters word) = word := by
  rw [lastWord, words_letters]
  rfl

theorem lastWord_letters_append (word : List Char) (segment : Segment) :
    lastWord (letters word ++ .space :: segment) = segment.lastWord := by
  rw [lastWord, words_letters_append, List.getLast?_cons_of_ne_nil segment.words_ne_nil]
  rfl

end Segment

theorem nonempty_append (a b : List (List Char)) : nonempty (a ++ b) = nonempty a ++ nonempty b :=
  List.filter_append a b

theorem nonempty_singleton {word : List Char} (h : word ≠ []) : nonempty [word] = [word] := by
  simp [nonempty, h]

/-- All words of a first segment but the last one are done with before the first delimiter. -/
theorem arguments_cons (bare : Segment) (more : List Segment) :
    arguments (bare :: more) = nonempty bare.words.dropLast ++ continued bare.lastWord more := by
  cases more with
  | nil =>
    rw [arguments, continued, ← nonempty_append, bare.dropLast_words_append]
  | cons quoted more =>
    cases more with
    | nil => rfl
    | cons next rest => rfl

/-- Of a word and the quoted segment behind it only what they hold together counts. -/
theorem continued_congr {word word' : List Char} {quoted quoted' : Segment}
    (h : word ++ quoted.text = word' ++ quoted'.text) (more : List Segment) :
    continued word (quoted :: more) = continued word' (quoted' :: more) := by
  cases more with
  | nil => rw [continued, continued, h]
  | cons next rest => rw [continued, continued, h]

/-- Signs always make at least one segment. -/
theorem exists_splitOn_eq_cons (line : List Sign) :
    ∃ (first : Segment) (more : List Segment), line.splitOn .delimiter = first :: more :=
  List.exists_cons_of_ne_nil (List.splitOn_ne_nil _ _)

theorem splitOn_space {line : List Sign} {first : Segment} {more : List Segment}
    (h : line.splitOn .delimiter = first :: more) :
    (Sign.space :: line).splitOn .delimiter = (.space :: first) :: more := by
  rw [List.splitOn_cons_eq_if_modifyHead, h]
  rfl

/-- What has been read between quotes so far is the beginning of the segment. -/
theorem argumentsOf_quoted (word : List Char) (line : List Sign) :
    argumentsOf (inProgress true word ++ line) =
      continued word.reverse (line.splitOn .delimiter) := by
  obtain ⟨first, more, hsplit⟩ := exists_splitOn_eq_cons line
  have hletters := splitOn_append_of_not_mem (delimiter_not_mem_letters word.reverse) hsplit
  have hopen : (inProgress true word ++ line).splitOn .delimiter =
      [] :: (letters word.reverse ++ line).splitOn .delimiter :=
    List.splitOn_append_cons_self_of_not_mem List.not_mem_nil _
  have hempty : Segment.lastWord [] = [] := rfl
  have htext : [] ++ Segment.text (letters word.reverse ++ first) = word.reverse ++ first.text := by
    rw [List.nil_append, Segment.text_append, Segment.text_letters]
  rw [argumentsOf, hopen, arguments_cons, hletters, hsplit, hempty, continued_congr htext]
  rfl

/-- A word that touches an opening quote goes on between quotes. -/
theorem argumentsOf_open (word : List Char) (line : List Sign) :
    argumentsOf (inProgress false word ++ .delimiter :: line) =
      argumentsOf (inProgress true word ++ line) := by
  have hsplit : (inProgress false word ++ .delimiter :: line).splitOn .delimiter =
      letters word.reverse :: line.splitOn .delimiter :=
    List.splitOn_append_cons_self_of_not_mem (delimiter_not_mem_letters _) line
  rw [argumentsOf_quoted, argumentsOf, hsplit, arguments_cons, Segment.words_letters,
    Segment.lastWord_letters]
  rfl

/-- A closing quote ends the argument, even an empty one. -/
theorem argumentsOf_close (word : List Char) (line : List Sign) :
    argumentsOf (inProgress true word ++ .delimiter :: line) =
      word.reverse :: argumentsOf line := by
  obtain ⟨first, more, hsplit⟩ := exists_splitOn_eq_cons line
  have hclose : (Sign.delimiter :: line).splitOn .delimiter = [] :: first :: more := by
    rw [← hsplit]
    exact List.splitOn_append_cons_self_of_not_mem List.not_mem_nil line
  rw [argumentsOf_quoted, hclose, argumentsOf, hsplit, continued]
  simp [Segment.text]

/-- A space between quotes is a character like any other. -/
theorem argumentsOf_quoted_space (word : List Char) (line : List Sign) :
    argumentsOf (inProgress true word ++ .space :: line) =
      argumentsOf (inProgress true (' ' :: word) ++ line) := by
  obtain ⟨first, more, hsplit⟩ := exists_splitOn_eq_cons line
  have htext : word.reverse ++ Segment.text (.space :: first) =
      (' ' :: word).reverse ++ first.text := by
    rw [List.reverse_cons, List.append_assoc]
    rfl
  rw [argumentsOf_quoted, argumentsOf_quoted, splitOn_space hsplit, hsplit, continued_congr htext]

/-- A space outside quotes ends the argument, unless there is none yet. -/
theorem argumentsOf_bare_space (word : List Char) (line : List Sign) :
    argumentsOf (inProgress false word ++ .space :: line) =
      nonempty [word.reverse] ++ argumentsOf line := by
  obtain ⟨first, more, hsplit⟩ := exists_splitOn_eq_cons line
  have hword : (inProgress false word ++ .space :: line).splitOn .delimiter =
      (letters word.reverse ++ .space :: first) :: more :=
    splitOn_append_of_not_mem (delimiter_not_mem_letters _) (splitOn_space hsplit)
  rw [argumentsOf, argumentsOf, hword, hsplit, arguments_cons, arguments_cons,
    Segment.words_letters_append, Segment.lastWord_letters_append,
    List.dropLast_cons_of_ne_nil first.words_ne_nil, ← List.append_assoc, ← nonempty_append]
  rfl

/-- At the end of the line a nonempty argument is complete, between quotes too. -/
theorem argumentsOf_end (quoted : Bool) (word : List Char) :
    argumentsOf (inProgress quoted word) = nonempty [word.reverse] := by
  cases quoted with
  | true =>
    have hread := argumentsOf_quoted word []
    rw [List.append_nil] at hread
    rw [hread, List.splitOn_nil, continued]
    simp [Segment.text]
  | false =>
    have hsplit : (inProgress false word).splitOn .delimiter = [letters word.reverse] :=
      List.splitOn_eq_singleton (delimiter_not_mem_letters _)
    rw [argumentsOf, hsplit, arguments, Segment.words_letters]

/-- A sign that is a character joins the argument in progress. -/
theorem inProgress_append_letter (quoted : Bool) (word : List Char) (c : Char) (line : List Sign) :
    inProgress quoted word ++ .letter c :: line = inProgress quoted (c :: word) ++ line := by
  cases quoted <;> simp [inProgress, letters]

/-- The scanner gives the arguments of the signs, wherever it is in the line. -/
theorem scan_eq_argumentsOf (quoted : Bool) (word rest : List Char) :
    scan quoted word rest = argumentsOf (inProgress quoted word ++ signs rest) := by
  -- the scanner's mode and the argument in progress are written back as signs before the rest of the
  -- line, so that each of its branches is one of the laws above
  fun_induction scan quoted word rest with
  | case1 quoted word hw =>
    rw [signs, List.append_nil, argumentsOf_end, List.isEmpty_iff.mp hw]
    rfl
  | case2 quoted word hw =>
    have hne : word.reverse ≠ [] := by simpa using hw
    rw [signs, List.append_nil, argumentsOf_end, nonempty_singleton hne]
  | case3 quoted word rest ih => rw [signs, inProgress_append_letter, ih]
  | case4 word rest ih => rw [signs, argumentsOf_close, ih]; rfl
  | case5 quoted word rest hq ih =>
    rw [Bool.not_eq_true] at hq
    subst hq
    rw [signs, argumentsOf_open, ih]
  | case6 word rest ih => rw [signs, argumentsOf_quoted_space, ih]
  | case7 quoted word rest hq hw ih =>
    rw [Bool.not_eq_true] at hq
    subst hq
    rw [signs, argumentsOf_bare_space, ih, List.isEmpty_iff.mp hw]
    rfl
  | case8 quoted word rest hq hw ih =>
    rw [Bool.not_eq_true] at hq
    subst hq
    have hne : word.reverse ≠ [] := by simpa using hw
    rw [signs, argumentsOf_bare_space, ih, nonempty_singleton hne]
    rfl
  | case9 quoted word c rest hescape hquote hspace ih =>
    rw [signs, inProgress_append_letter, ih]
    · exact hescape
    · exact hquote
    · exact hspace

/-- The arguments of a line are those of its segments. -/
theorem tokenize_eq_argumentsOf (line : String) :
    tokenize line = (argumentsOf (signs line.toList)).map String.ofList := by
  rw [tokenize, scan_eq_argumentsOf]
  rfl

example : argumentsOf (signs "a  b\"c  d\\\"\"\"\"e \"f".toList) =
    ["a", "bc  d\"", "", "e", "f"].map String.toList := by
  decide +kernel

end ToolHost.CommandLine
