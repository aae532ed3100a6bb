import ToolHost.Proofs.Config.Drafts
import ToolHost.Proofs.Json.CutParts

/-! Configurations whose text is cut off. All of a configuration may be left out, but its end may not:
a text that goes on is never taken for a configuration before it is over, and what is said of it is
that it stops or is no JSON, never that something in it does not fit. -/
namespace ToolHost

namespace Config
open Json

variable {α : Type}

theorem bearsCuts_readText (wanted : String) : BearsCuts Never (readText wanted).read :=
  bearsCuts_expect wanted fun x => by cases x <;> rfl

theorem bearsCuts_readBaseDir : BearsCuts Never readBaseDir.read :=
  bearsCuts_expect "path string" fun x => by cases x <;> rfl

theorem bearsCuts_readFlag : BearsCuts Never readFlag.read :=
  bearsCuts_expect "a boolean" fun x => by cases x <;> rfl

/-- A count that is cut off is a smaller one, and not out of range. -/
theorem bearsCuts_readTimeout : BearsCuts Always readTimeout.read := by
  intro front back
  have hchain (x : Reading Found) (f : Found × List Char → Reading (Option Int))
      (g : Option Int × List Char → Reading (Option UInt64)) :
      (x.bind f).bind g = x.bind fun found => (f found).bind g := by
    cases x with
    | error fault => rfl
    | ok found => rfl
  rw [readTimeout, Reader.read_check, Reader.read_check, read_expect, read_expect, hchain, hchain]
  refine (bearsCuts_readUnbracketed "u64" front back).bind (fun found rest _ _ => ?_) ?_
  · refine (cut_takeFound "u64" _ Never found rest back).next fun seconds? rest _ _ => ?_
    cases seconds? with
    | none => exact .kept none rest
    | some seconds =>
      dsimp only
      split
      · exact .refused _ _
      · exact .kept _ rest
  · rintro _ _ rest ⟨x, y, rfl, rfl, hbegins⟩ hback
    cases y with
    | fractional value => exact .refused _ _
    | integer value =>
      by_cases hnegative : value < 0
      · simp only [takeFound, Number.found, orNull, Found.integer?, Option.map_some, Except.bind,
          if_pos hnegative]
        exact .refused _ _
      · obtain ⟨count, rfl⟩ := Int.eq_ofNat_of_zero_le (Int.not_lt.1 hnegative)
        obtain ⟨less, rfl⟩ := hbegins count rfl
        have hless : ¬ (less : Int) < 0 := Int.not_lt.2 (Int.natCast_nonneg less)
        simp only [takeFound, Number.found, orNull, Found.integer?, Option.map_some, Except.bind,
          if_neg hless]
        exact .ended_always _ hback _

theorem bearsCuts_layoutMember (f : LayoutFields) (key : String) : (f.member key).BearsCuts := by
  unfold LayoutFields.member
  split
  · exact Member.once_bearsCuts (bearsCuts_readText _).always _ _
  · split
    · exact Member.once_bearsCuts (bearsCuts_readText _).always _ _
    · nofun

theorem bearsCuts_readLayoutMembers : BearsCuts Never readLayoutMembers.read := by
  refine BearsCuts.check (bearsCuts_readMembers bearsCuts_layoutMember true {}) ?_
  intro f layout rest back hok
  rcases f with ⟨_ | dir, _ | executable⟩
  · cases hok
  · cases hok
  · cases hok
  · exact hok

theorem readLayoutElements_eq (text : List Char) : readLayoutElements.read text =
    (readElement true (readText "path string") text).bind fun (dir?, rest) =>
      match dir? with
      | none => .error (tooShort 0 rest)
      | some dir => (readElement false (readText "a string") rest).bind fun (executable?, rest) =>
        match executable? with
        | none => .error (tooShort 1 rest)
        | some executable => (closeList rest).map fun rest => (⟨dir, executable⟩, rest) := by
  simp only [readLayoutElements]
  cases readElement true (readText "path string") text with
  | error fault => rfl
  | ok found =>
    obtain ⟨_ | dir, rest⟩ := found
    · rfl
    · dsimp only [Except.bind]
      cases readElement false (readText "a string") rest with
      | error fault => rfl
      | ok found =>
        obtain ⟨_ | executable, rest⟩ := found
        · rfl
        · rfl

theorem cut_closeList (a : α) (front back : List Char) : Cut Never back
    ((closeList front).map fun rest => (a, rest))
    ((closeList (front ++ back)).map fun rest => (a, rest)) := by
  rw [map_eq_rests_map, map_eq_rests_map]
  exact (bearsCuts_closeList front back).map (f := fun _ => a) fun _ _ h => h

theorem bearsCuts_readLayoutElements : BearsCuts Never readLayoutElements.read := by
  intro front back
  have hnever {α : Type} (a b : α) (h : Never a b) : Never (some a) (some b) := h
  rw [readLayoutElements_eq, readLayoutElements_eq]
  refine (bearsCuts_readElement (bearsCuts_readText _) hnever true front back).next
    fun dir? rest _ _ => ?_
  cases dir? with
  | none => exact .refused _ _
  | some dir =>
    refine (bearsCuts_readElement (bearsCuts_readText _) hnever false rest back).next
      fun executable? rest _ _ => ?_
    cases executable? with
    | none => exact .refused _ _
    | some executable => exact cut_closeList _ rest back

theorem bearsCuts_readLayout : BearsCuts Never readLayout.read :=
  bearsCuts_record bearsCuts_readLayoutMembers bearsCuts_readLayoutElements _

theorem bearsCuts_readTable : BearsCuts Never readTable.read := by
  have hmember (table : ToolTable) (key : String) :
      Member.BearsCuts (.known (readLayout.map (table.insert key))) := by
    intro reader hreader
    cases hreader
    exact bearsCuts_readLayout.read_map fun _ _ h => h.elim
  refine bearsCuts_of_marks ?_ ⟨_, rfl, by nofun⟩ fun c hc => ?_
  · intro text
    simp only [readTable, expect, skipBlank_skipBlank]
  by_cases hbrace : c = '\x7b'
  · exact hbrace ▸ .passes _ (bearsCuts_readMembers hmember true ToolTable.empty) fun _ => rfl
  refine .refuses fun text => ?_
  simp only [readTable, skipBlank_cons hc]
  split
  · rename_i h
    exact absurd (List.cons.inj h).1 hbrace
  · exact exists_expect_none_error "a map" _

theorem bearsCuts_readTools (place : List Char → List Char) :
    BearsCuts Never (readTools place).read := by
  refine BearsCuts.check bearsCuts_readTable ?_
  intro table tools rest back hok
  cases hrepeat : table.ambiguous? with
  | none =>
    rw [hrepeat] at hok
    exact hok
  | some name =>
    rw [hrepeat] at hok
    cases hok

theorem bearsCuts_configMember (f : Fields) (key : String) : (f.member key).BearsCuts := by
  unfold Fields.member
  split
  · exact Member.once_bearsCuts bearsCuts_readBaseDir.always _ _
  · split
    · exact Member.once_bearsCuts bearsCuts_readTimeout _ _
    · split
      · exact Member.once_bearsCuts bearsCuts_readFlag.always _ _
      · split
        · exact Member.once_bearsCuts (bearsCuts_readTools _).always _ _
        · nofun

theorem bearsCuts_readConfigMembers : BearsCuts Never readConfigMembers.read :=
  BearsCuts.read_map (bearsCuts_readMembers bearsCuts_configMember true {}) fun _ _ h => h

theorem bearsCuts_readConfigElements : BearsCuts Never readConfigElements.read := by
  intro front back
  have hnext {α β : Type} (reader : Reader α) (f : Option α × List Char → Reading β) :
      BreaksOff ((readElement false reader []).bind f) :=
    ⟨_, rfl, by nofun⟩
  have hany {α : Type} (a b : α) (_ : Always a b) : Always (some a) (some b) := trivial
  rw [readConfigElements_eq, readConfigElements_eq]
  refine (bearsCuts_readElement bearsCuts_readBaseDir.always hany true front back).closed
    (fun baseDir? rest _ _ => ?_) fun _ => hnext _ _
  refine (bearsCuts_readElement bearsCuts_readTimeout hany false rest back).closed
    (fun timeoutSecs? rest _ _ => ?_) fun _ => hnext _ _
  refine (bearsCuts_readElement bearsCuts_readFlag.always hany false rest back).closed
    (fun chdirToTool? rest _ _ => ?_) fun _ => hnext _ _
  refine (bearsCuts_readElement (bearsCuts_readTools _).always hany false rest back).closed
    (fun tools? rest _ _ => ?_) fun _ => ⟨_, rfl, by nofun⟩
  exact cut_closeList _ rest back

theorem bearsCuts_readConfig : BearsCuts Never readConfig.read :=
  bearsCuts_record bearsCuts_readConfigMembers bearsCuts_readConfigElements _

end Config

namespace HostConfig
open Json
variable {text front back : String} {config : HostConfig}

theorem ofJson_eq_ok_iff :
    ofJson text = .ok config ↔ readDocument Config.readConfig text.toList = .ok config := by
  rw [ofJson]
  cases readDocument Config.readConfig text.toList with
  | error fault => simp
  | ok other => simp

theorem not_visible_iff {text : List Char} : ¬ Visible text ↔ ∀ c ∈ text, isBlank c = true := by
  simp [Visible]

/-- A text that describes a configuration is cut off. What is left describes one if and only if there
were only blanks behind it, and then the same one. Else it is said to stop too early or to be no JSON,
and never that its content does not fit. -/
theorem cut_off_config_is_refused (h : ofJson (front ++ back) = .ok config) :
    ((∃ other, ofJson front = .ok other) ↔ ∀ c ∈ back.toList, isBlank c = true) ∧
    (∀ other, ofJson front = .ok other → other = config) ∧
    ∀ fault, ofJson front = .error fault →
      fault.cause.kind = .truncated ∨ fault.cause.kind = .malformed := by
  rw [ofJson_eq_ok_iff, String.toList_append] at h
  rcases readDocument_of_append Config.bearsCuts_readConfig h with ⟨hblank, hfront⟩ | ⟨hback, hfront⟩
  · have hsame : ofJson front = .ok config := ofJson_eq_ok_iff.2 hfront
    rw [hsame]
    refine ⟨⟨fun _ => not_visible_iff.1 hblank, fun _ => ⟨config, rfl⟩⟩, ?_, ?_⟩
    · intro other hother
      cases hother
      rfl
    · intro fault hfault
      cases hfault
  · obtain ⟨fault, hfault, hkind⟩ := hfront
    have hrefused : ofJson front = .error ⟨fault.cause, fault.position front.toList⟩ := by
      rw [ofJson, hfault]
    rw [hrefused]
    refine ⟨⟨?_, fun hblank => absurd hback (not_visible_iff.2 hblank)⟩, ?_, ?_⟩
    · rintro ⟨other, hother⟩
      cases hother
    · intro other hother
      cases hother
    · intro other hother
      cases hother
      cases hcause : fault.cause.kind with
      | truncated => exact .inl rfl
      | malformed => exact .inr rfl
      | misfit => exact absurd hcause hkind

/-- A configuration up to the middle of a count. -/
def countFront : String := "\x7b\"timeout_secs\":1"

/-- The rest of it, with a member that nobody asked for. -/
def countBack : String := "2,\"later\":[1,\x7b\x7d]\x7d\n"

/-- The count that is left is not taken for a configuration. -/
theorem cut_off_count_is_refused :
    ofJson (countFront ++ countBack) = .ok ⟨none, some 12, false, .empty⟩ ∧
      ∃ fault, ofJson countFront = .error fault ∧
        (fault.cause.kind = .truncated ∨ fault.cause.kind = .malformed) := by
  have hwhole : ofJson (countFront ++ countBack) = .ok ⟨none, some 12, false, .empty⟩ := by
    decide +kernel
  obtain ⟨hiff, -, hkind⟩ := cut_off_config_is_refused hwhole
  refine ⟨hwhole, ?_⟩
  cases hfront : ofJson countFront with
  | error fault => exact ⟨fault, rfl, hkind fault hfront⟩
  | ok other =>
    have hblank := hiff.1 ⟨other, hfront⟩
    exact absurd (hblank '2' (by decide +kernel)) (by decide)

end HostConfig
end ToolHost
