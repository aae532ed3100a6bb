import ToolHost.Proofs.Config.Timeouts
import ToolHost.Proofs.Program.Placement

/-! Counts of seconds on a command line, and on both ways to a timeout. Digits are taken one after the
other, and the first one that leads beyond 64 bits makes the whole word no count: no number is wrapped,
rounded or cut short. -/
namespace ToolHost.Program
open Json
variable {value text : String} {before after : List Setting} {words : List String} {o : Options}

section Digits
variable {digits : List Char} {n : UInt64}

/-- The digits of a count behind its plus, if it has one. -/
def unsigned : List Char → List Char
  | '+' :: digits => digits
  | digits => digits

theorem digitsValue_append_singleton (digits : List Char) (c : Char) :
    digitsValue (digits ++ [c]) = digitsValue digits * 10 + digitValue c := by
  rw [digitsValue, List.foldl_append]
  rfl

/-- Digits are read behind others as long as the number stays within 64 bits, and the number that is
read is that of all of them. -/
theorem readDigits_eq_ok_iff {n : Nat} (front : List Char) (hfront : digitsValue front < UInt64.size) :
    readDigits (digitsValue front) digits = .ok n ↔ (∀ c ∈ digits, c.isDigit = true) ∧
      digitsValue (front ++ digits) < UInt64.size ∧ digitsValue (front ++ digits) = n := by
  induction digits generalizing front with
  | nil => simp [readDigits, hfront]
  | cons c digits ih =>
    have hsplit : front ++ c :: digits = front ++ [c] ++ digits := by simp
    rw [readDigits, hsplit, ← digitsValue_append_singleton]
    by_cases hdigit : c.isDigit = true
    · by_cases hnext : digitsValue (front ++ [c]) < UInt64.size
      · simp only [hdigit, hnext, ih _ hnext, List.forall_mem_cons, Bool.not_true, Bool.false_eq_true,
          if_true, if_false, true_and]
      · -- more digits do not bring the number back
        have hgrows := digitsValue_le_of_begins (List.prefix_append (front ++ [c]) digits)
        have hlarge : ¬ digitsValue (front ++ [c] ++ digits) < UInt64.size := by omega
        simp only [hdigit, hnext, hlarge, Bool.not_true, Bool.false_eq_true, if_false, false_and,
          and_false, reduceCtorEq]
    · simp [hdigit]

theorem readDigits_zero_eq_ok_iff (hne : digits ≠ []) :
    (readDigits 0 digits).map UInt64.ofNat = .ok n ↔
      IsCount digits ∧ n = UInt64.ofNat (digitsValue digits) := by
  have hread (m : Nat) : readDigits 0 digits = .ok m ↔ (∀ c ∈ digits, c.isDigit = true) ∧
      digitsValue digits < UInt64.size ∧ digitsValue digits = m :=
    readDigits_eq_ok_iff [] (by decide)
  constructor
  · intro h
    obtain ⟨m, hm, rfl⟩ := exists_of_map_eq_ok h
    obtain ⟨hdigits, hlimit, rfl⟩ := (hread m).1 hm
    exact ⟨⟨⟨hne, hdigits⟩, hlimit⟩, rfl⟩
  · rintro ⟨⟨⟨-, hdigits⟩, hlimit⟩, rfl⟩
    rw [(hread _).2 ⟨hdigits, hlimit, rfl⟩]
    rfl

/-- A word is read as a count of seconds exactly if it is one, with a plus before it or not. -/
theorem readSeconds_eq_ok_iff : readSeconds value = .ok n ↔
    IsCount (unsigned value.toList) ∧ n = UInt64.ofNat (digitsValue (unsigned value.toList)) := by
  have hnone : ¬ IsCount [] := fun h => h.1.1 rfl
  unfold readSeconds
  split
  · rename_i heq
    rw [heq]
    exact iff_of_false (by nofun) fun h => hnone h.1
  · rename_i heq
    rw [heq]
    exact iff_of_false (by nofun) fun h => hnone h.1
  · rename_i digits hne heq
    rw [heq]
    exact readDigits_zero_eq_ok_iff (by rintro rfl; exact hne rfl)
  · rename_i hempty hplus hsigned
    have hsame : unsigned value.toList = value.toList := by
      unfold unsigned
      split
      · rename_i digits heq
        exact absurd heq (hsigned digits)
      · rfl
    rw [hsame]
    exact readDigits_zero_eq_ok_iff hempty

theorem accepts_timeoutSecs_iff : Valued.timeoutSecs.Accepts value ↔ IsCount (unsigned value.toList) := by
  simp only [Valued.Accepts, readSeconds_eq_ok_iff, exists_and_left, exists_eq, and_true]

theorem seconds?_of_isCount (h : IsCount (unsigned value.toList)) :
    seconds? value = some (UInt64.ofNat (digitsValue (unsigned value.toList))) := by
  rw [seconds?, readSeconds_eq_ok_iff.2 ⟨h, rfl⟩]
  rfl

end Digits

section Words
variable {option : Valued} {front : List Setting}

theorem Draft.exists_give_error (h : ¬ option.Accepts value) (d : Draft) :
    ∃ refusal, d.give option value = .error refusal := by
  unfold Draft.give
  split
  · exact ⟨_, rfl⟩
  · cases option with
    | config | baseDir =>
      have hempty : value = "" := by simpa [Valued.Accepts] using h
      exact ⟨_, if_pos hempty⟩
    | timeoutSecs =>
      cases hread : readSeconds value with
      | ok n => exact absurd ⟨n, hread⟩ h
      | error fault => exact ⟨.invalidSeconds value fault, rfl⟩
    | line => exact absurd trivial h

/-- A value that its option does not accept ends the reading. -/
theorem exists_readWords_error (h : ¬ option.Accepts value) (d : Draft) (seen : Bool)
    (rest : List String) : ∃ refusal,
      readWords d .nothing seen ((Setting.joined option value).words ++ rest) = .error refusal := by
  have hsettle : d.settle .nothing = .ok d := rfl
  obtain ⟨refusal, hgive⟩ := Draft.exists_give_error h d
  refine ⟨refusal, ?_⟩
  simp only [Setting.words, List.singleton_append, readWords, shape_word_append, hsettle, hgive]

/-- A command line that gives a value for the timeout, in one word with the option. All other words on
it are in order. -/
structure GivesTimeout (value : String) (before : List Setting) (text : String) (after : List Setting)
    (words : List String) : Prop where
  given : .joined .timeoutSecs value ∈ before ++ after
  others : ∀ s ∈ before ++ after, s = .joined .timeoutSecs value ∨ s.Valid
  once : ((before ++ after).map Setting.option?).Nodup
  tool : ∃ tool, ToolId.ofText? text = some tool
  notOption : text.toList.head? ≠ some '-'
  args : ∀ first ∈ words.head?, first.toList.head? ≠ some '-'
  line : some .line ∈ (before ++ after).map Setting.option? → words = []

namespace GivesTimeout

/-- What comes before the value is in order. -/
theorem before_value {behind : List Setting} (h : GivesTimeout value before text after words)
    (hsplit : before ++ after = front ++ .joined .timeoutSecs value :: behind) :
    (∀ s ∈ front, s.Valid) ∧ (front.map Setting.option?).Nodup := by
  have honce := h.once
  rw [hsplit, List.map_append, List.nodup_append'] at honce
  obtain ⟨hfront, -, hdisjoint⟩ := honce
  refine ⟨fun s hs => ?_, hfront⟩
  rcases h.others s (hsplit ▸ List.mem_append_left _ hs) with rfl | hvalid
  · exact absurd (List.mem_map_of_mem List.mem_cons_self) (hdisjoint (List.mem_map_of_mem hs))
  · exact hvalid

theorem refused (h : GivesTimeout value before text after words)
    (hvalue : ¬ Valued.timeoutSecs.Accepts value) :
    ∃ refusal, Options.ofWords (arrange before text after words) = .error refusal := by
  rcases List.mem_append.1 h.given with hmem | hmem
  · obtain ⟨front, behind, rfl⟩ := List.append_of_mem hmem
    obtain ⟨hvalid, honce⟩ := h.before_value (List.append_assoc ..)
    obtain ⟨refusal, hread⟩ := exists_readWords_error hvalue (Draft.plus {} front) false
      (arrange behind text after words)
    refine ⟨refusal, ?_⟩
    rw [← hread, ← readWords_settings hvalid honce (lacks_all front), Options.ofWords]
    simp [arrange]
  · obtain ⟨front, behind, rfl⟩ := List.append_of_mem hmem
    obtain ⟨tool, htool⟩ := h.tool
    obtain ⟨hvalid, honce⟩ := h.before_value (List.append_assoc ..).symm
    obtain ⟨refusal, hread⟩ := exists_readWords_error hvalue
      { Draft.plus {} (before ++ front) with tool? := some tool } true
      (behind.flatMap Setting.words ++ words)
    refine ⟨refusal, ?_⟩
    rw [← hread, ← ofWords_around_tool hvalid honce htool h.notOption]
    simp [arrange]

theorem accepted (h : GivesTimeout value before text after words)
    (hvalue : Valued.timeoutSecs.Accepts value) :
    ∃ tool, Options.ofWords (arrange before text after words) =
      .ok (.given (before ++ after) tool words) := by
  have hvalid : ∀ s ∈ before ++ after, s.Valid := by
    intro s hs
    rcases h.others s hs with rfl | hvalid
    · exact hvalue
    · exact hvalid
  obtain ⟨tool, htool⟩ := h.tool
  exact ⟨tool, ofWords_arrange hvalid h.once htool h.notOption h.args h.line⟩

theorem accepted_iff (h : GivesTimeout value before text after words) :
    (∃ o, Options.ofWords (arrange before text after words) = .ok o) ↔
      IsCount (unsigned value.toList) := by
  rw [← accepts_timeoutSecs_iff]
  constructor
  · rintro ⟨o, ho⟩
    by_contra hvalue
    obtain ⟨refusal, hrefused⟩ := h.refused hvalue
    rw [hrefused] at ho
    cases ho
  · intro hvalue
    obtain ⟨tool, htool⟩ := h.accepted hvalue
    exact ⟨_, htool⟩

/-- The options have the number that was given. -/
theorem timeoutSecs?_eq (h : GivesTimeout value before text after words)
    (ho : Options.ofWords (arrange before text after words) = .ok o) :
    IsCount (unsigned value.toList) ∧
      o.timeoutSecs? = some (UInt64.ofNat (digitsValue (unsigned value.toList))) := by
  have hcount := h.accepted_iff.1 ⟨o, ho⟩
  obtain ⟨tool, htool⟩ := h.accepted (accepts_timeoutSecs_iff.2 hcount)
  obtain rfl : Options.given (before ++ after) tool words = o := Except.ok.inj (htool.symm.trans ho)
  have hvalue : valueOf (before ++ after) .timeoutSecs = some value :=
    (valueOf_eq_some_iff h.once).2 ⟨_, h.given, rfl⟩
  refine ⟨hcount, ?_⟩
  rw [Options.given, hvalue]
  exact seconds?_of_isCount hcount

end GivesTimeout

/-- Seconds on the command line are the timeout, whatever the configuration says. -/
theorem Options.timeout?_hostConfig {n : UInt64} (h : o.timeoutSecs? = some n) (m : Machine) :
    (o.hostConfig m).map HostConfig.timeout? =
      (o.source m).map fun _ => some (.ofSeconds n.toNat) := by
  rw [hostConfig]
  cases o.source m with
  | error problem => rfl
  | ok config => simp [Except.map, HostConfig.timeout?, h]

end Words

theorem toNat_count {digits : List Char} (h : IsCount digits) :
    (UInt64.ofNat (digitsValue digits)).toNat = digitsValue digits :=
  UInt64.toNat_ofNat_of_lt h.2

/-- A timeout is the number of seconds that is written, on both ways to it. In the text of a
configuration a number is accepted exactly if it is digits for less than `2 ^ 64`, provided that the
text is a configuration with no timeout in its place; on a command line that is otherwise in order, a
value is accepted exactly if it is such digits, behind a plus or not. The timeout is then their value. -/
theorem timeouts_are_exact :
    (∀ front back token : String, Config.TimeoutPlace front.toList back.toList →
      NumberToken token.toList →
      ((∃ config, HostConfig.ofJson (front ++ token ++ back) = .ok config) ↔
        IsCount token.toList ∧ ∃ other, HostConfig.ofJson (front ++ "null" ++ back) = .ok other) ∧
      ∀ config, HostConfig.ofJson (front ++ token ++ back) = .ok config →
        config.timeout? = some (.ofSeconds (digitsValue token.toList))) ∧
    (∀ value before text after words, GivesTimeout value before text after words →
      ((∃ o, Options.ofWords (arrange before text after words) = .ok o) ↔
        IsCount (unsigned value.toList)) ∧
      ∀ o, Options.ofWords (arrange before text after words) = .ok o → ∀ m,
        (o.hostConfig m).map HostConfig.timeout? =
          (o.source m).map fun _ => some (.ofSeconds (digitsValue (unsigned value.toList)))) := by
  constructor
  · intro front back token hplace htoken
    have hread (config : HostConfig) : HostConfig.ofJson (front ++ token ++ back) = .ok config ↔
        IsCount token.toList ∧ ∃ other, HostConfig.ofJson (front ++ "null" ++ back) = .ok other ∧
          config = { other with timeoutSecs? := some (UInt64.ofNat (digitsValue token.toList)) } :=
      HostConfig.ofJson_number_iff hplace htoken (by simp) (by simp [Config.nullText])
    refine ⟨⟨?_, ?_⟩, ?_⟩
    · rintro ⟨config, hconfig⟩
      obtain ⟨hcount, other, hother, -⟩ := (hread config).1 hconfig
      exact ⟨hcount, other, hother⟩
    · rintro ⟨hcount, other, hother⟩
      exact ⟨_, (hread _).2 ⟨hcount, other, hother, rfl⟩⟩
    · intro config hconfig
      obtain ⟨hcount, other, -, rfl⟩ := (hread config).1 hconfig
      simp [HostConfig.timeout?, toNat_count hcount]
  · intro value before text after words hgives
    refine ⟨hgives.accepted_iff, fun o ho m => ?_⟩
    obtain ⟨hcount, htimeout⟩ := hgives.timeoutSecs?_eq ho
    rw [Options.timeout?_hostConfig htimeout, toNat_count hcount]

/-- A command line with nothing but a timeout and a tool. -/
theorem givesTimeout_alone (value : String) :
    GivesTimeout value [.joined .timeoutSecs value] "sqlitecompare" [] [] where
  given := List.mem_singleton_self _
  others _ hs := .inl (List.mem_singleton.1 hs)
  once := List.nodup_singleton _
  tool := ⟨.sqliteCompare, by decide +kernel⟩
  notOption := by decide
  args := by decide
  line _ := rfl

/-- The greatest number that fits is taken on both ways, behind a plus and a zero on the command line,
and the next number on neither. -/
theorem greatest_timeout_is_exact :
    Config.TimeoutPlace "\x7b\"timeout_secs\":".toList "\x7d".toList ∧
      (∃ config, HostConfig.ofJson "\x7b\"timeout_secs\":18446744073709551615\x7d" = .ok config ∧
        config.timeout? = some (.ofSeconds 18446744073709551615)) ∧
      (¬ ∃ config, HostConfig.ofJson "\x7b\"timeout_secs\":18446744073709551616\x7d" = .ok config) ∧
      (∃ o, Options.ofWords ["--timeout-secs=+018446744073709551615", "sqlitecompare"] = .ok o ∧
        ∀ m, (o.hostConfig m).map HostConfig.timeout? =
          (o.source m).map fun _ => some (.ofSeconds 18446744073709551615)) ∧
      ¬ ∃ o, Options.ofWords ["--timeout-secs=18446744073709551616", "sqlitecompare"] = .ok o := by
  have hname : Literal "timeout_secs" "\"timeout_secs\"".toList :=
    literal_self (by simp [isControl])
  have hplace : Config.TimeoutPlace "\x7b\"timeout_secs\":".toList "\x7d".toList :=
    .member .nil .nil .nothing (.first .nil) ⟨_, [], [], hname, .nil, .nil, rfl⟩ (.ended .nil)
  have htoken {digits : List Char} (h : Whole digits) : NumberToken digits := by
    simpa using NumberToken.plain (.mk h .missing .missing)
  have hfits : IsCount "18446744073709551615".toList :=
    ⟨⟨by decide, List.all_eq_true.1 (by decide)⟩, by decide +kernel⟩
  have hnext : ¬ IsCount "18446744073709551616".toList := fun h => absurd h.2 (by decide +kernel)
  have hother : ∃ other, HostConfig.ofJson ("\x7b\"timeout_secs\":" ++ "null" ++ "\x7d") = .ok other :=
    ⟨⟨none, none, false, .empty⟩, by decide +kernel⟩
  obtain ⟨hjson, hwords⟩ := timeouts_are_exact
  obtain ⟨hread, htimeout⟩ := hjson _ _ "18446744073709551615" hplace
    (htoken ⟨hfits.1, by decide⟩)
  obtain ⟨hreadNext, -⟩ := hjson _ _ "18446744073709551616" hplace
    (htoken ⟨⟨by decide, List.all_eq_true.1 (by decide)⟩, by decide⟩)
  obtain ⟨hgiven, hseconds⟩ := hwords _ _ _ _ _ (givesTimeout_alone "+018446744073709551615")
  obtain ⟨hgivenNext, -⟩ := hwords _ _ _ _ _ (givesTimeout_alone "18446744073709551616")
  refine ⟨hplace, ?_, fun h => hnext (hreadNext.1 h).1, ?_, fun h => hnext (hgivenNext.1 h)⟩
  · obtain ⟨config, hconfig⟩ := hread.2 ⟨hfits, hother⟩
    exact ⟨config, hconfig, htimeout config hconfig⟩
  · obtain ⟨o, ho⟩ := hgiven.2 ⟨⟨by decide, List.all_eq_true.1 (by decide)⟩, by decide +kernel⟩
    exact ⟨o, ho, hseconds o ho⟩

end ToolHost.Program
