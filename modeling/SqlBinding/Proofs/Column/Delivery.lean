import Mathlib.Data.List.DropRight
import SqlBinding.Column.Scan
import SqlBinding.Literal
import SqlBinding.Proofs.Literal.Quoting
import SqlBinding.Proofs.Time.Scanning

/-!
# Texts delivered by a driver

A driver may deliver a text as such or as its bytes, and servers fill columns up with blanks. None
of this makes a difference to a scalar that is parsed from text, so every form in which a point in
time is written is scanned as what was written.
-/

set_option autoImplicit false

namespace SqlBinding

open Text

/-- A text is decoded from its own bytes. -/
theorem Text.Utf8.decode?_encode (s : String) : Utf8.decode? (Utf8.encode s) = some s := by
  have hbytes : (⟨(Utf8.encode s).toArray⟩ : ByteArray) = s.toUTF8 := by
    simp [Utf8.encode]
  rw [Utf8.decode?, hbytes]
  exact dif_pos s.isValidUTF8

namespace ColumnValue

/-- Whether a value delivers a text, as such or as bytes, with blanks around it or without. -/
def Delivers (v : ColumnValue) (cs : List Char) : Prop :=
  ∃ s : String, (v = .text s ∨ v = .bytes (Utf8.encode s)) ∧
    ∃ before after, Blank before ∧ Blank after ∧ s.toList = before ++ cs ++ after

/-- What is delivered has a text that is the delivered one up to the blanks at its ends. -/
theorem Delivers.textOf {v : ColumnValue} {cs : List Char} (h : v.Delivers cs) (hcs : Tight cs)
    (target : String) : ∃ s, v.textOf target = .ok s ∧ trim s.toList = cs := by
  obtain ⟨s, hv, before, after, hbefore, hafter, hs⟩ := h
  refine ⟨s, ?_, ?_⟩
  · rcases hv with rfl | rfl
    · rfl
    · rw [ColumnValue.textOf, Utf8.decode?_encode]
  · rw [hs, trim_tight hbefore hcs hafter]

/-- A text that the scanner takes as it is stands for its point in time however it is delivered. -/
theorem Delivers.toTimestamp {v : ColumnValue} {cs : List Char} (h : v.Delivers cs)
    (hcs : Tight cs) {t : Time.Timestamp} (hscan : Time.Timestamp.scan cs = .ok t) :
    v.toTimestamp = .ok t := by
  obtain ⟨s, htext, htrim⟩ := h.textOf hcs "timestamp"
  -- The scanner trims, so blanks at the ends make no difference to it.
  have hscanned : Time.Timestamp.scan s.toList = .ok t := by
    rw [← hscan, Time.Timestamp.scan, Time.Timestamp.scan, htrim, trim_eq_self hcs]
  have hparsed : v.parsedTime = .ok t := by
    rw [parsedTime, htext]
    simp only [hscanned]
  obtain ⟨_, rfl | rfl, -⟩ := h
  · exact hparsed
  · exact hparsed

end ColumnValue

/-- The form of a local date and time inside literals needs no escapes. -/
theorem Time.LocalDateTime.not_mem_specialChars (w : LocalDateTime) :
    ∀ c ∈ w.literalText, c ∉ Dialect.specialChars := by
  refine forall_mem_literalText (fun c hc hspecial => ?_) (by decide) (by decide) w
  have hdigits : ∀ c ∈ Dialect.specialChars, c.isDigit = false := by simp [Dialect.specialChars]
  exact ne_of_isDigit hc (hdigits c hspecial) rfl

namespace Time.Timestamp

/-- Every form in which a point in time is written is scanned as what was written, in whatever way
it is delivered: the exchange form as the point in time unless it is a leap second, the form inside
literals as its local date and time, and the text of a column with four digits for the year and
whole minutes for the offset as the point in time. -/
theorem written_times_scanned (t : Timestamp) (d : Dialect)
    (hleap : nanosPerSecond ≤ t.wall.time.nano → t.wall.time.second = 59) :
    (t.wall.time.nano < nanosPerSecond → ∀ v : ColumnValue, v.Delivers t.exchangeText →
      Scalar.timestamp.ofColumn v = .ok t) ∧
    (∃ mark ∈ ['\'', '"'], ∃ inner,
      (Argument.timestamp t).literal d = .ok (mark :: (inner ++ [mark])) ∧
      ∀ v : ColumnValue, v.Delivers inner → Scalar.localDateTime.ofColumn v = .ok t.wall) ∧
    (0 ≤ t.wall.date.year → t.wall.date.year ≤ 9999 → 60 ∣ t.offset.seconds →
      ∃ s, Scalar.text.ofColumn (.timestamp t) = .ok s ∧
        ∀ v : ColumnValue, v.Delivers s.toList → Scalar.timestamp.ofColumn v = .ok t) := by
  refine ⟨fun hplain v hv => ?_, ?_, fun hmin hmax hoffset => ?_⟩
  · have hscan := t.scan_exchangeText
    rw [withoutLeap_of_lt hplain] at hscan
    exact hv.toTimestamp t.tight_exchangeText hscan
  · obtain ⟨mark, hmark, hquote⟩ := Dialect.exists_quote_eq t.wall.not_mem_specialChars d
    refine ⟨mark, hmark, t.wall.literalText, congrArg Except.ok hquote, fun v hv => ?_⟩
    have hread := hv.toTimestamp t.wall.tight_literalText (LocalDateTime.scan_literalText hleap)
    rw [Scalar.ofColumn, hread]
    exact congrArg Except.ok (utc_ofUtc t.wall)
  · refine ⟨String.ofList t.rfc3339, rfl, fun v hv => ?_⟩
    rw [String.toList_ofList] at hv
    exact hv.toTimestamp (tight_rfc3339 hmin hmax) (scan_rfc3339 hleap hmin hmax hoffset)

/-- A leap second inside a literal and in RFC 3339, and a year of five digits in exchange form, each
with blanks around it, delivered as text or as bytes. -/
theorem written_times_scanned_leapSecond :
    leapSecond.wall.time.second = 59 ∧ nanosPerSecond ≤ leapSecond.wall.time.nano ∧
      (Argument.timestamp leapSecond).literal .postgres =
        .ok "'2016-12-31 22:59:60.250000000'".toList ∧
      Scalar.localDateTime.ofColumn (.text " 2016-12-31 22:59:60.250000000\n") =
        .ok leapSecond.wall ∧
      Scalar.timestamp.ofColumn (.bytes (Utf8.encode "2016-12-31T22:59:60.250-01:00 ")) =
        .ok leapSecond ∧
      Scalar.timestamp.ofColumn (.text "\t10000-01-01 12:34:56.000000001+01:00") =
        .ok fiveDigits := by
  have hsecond : leapSecond.wall.time.second = 59 := rfl
  have hplain : fiveDigits.wall.time.nano < nanosPerSecond := by decide
  have hliteral : (Argument.timestamp leapSecond).literal .postgres =
      .ok "'2016-12-31 22:59:60.250000000'".toList := rfl
  obtain ⟨-, ⟨mark, -, inner, hinner, hlocal⟩, hrfc⟩ :=
    written_times_scanned leapSecond .postgres fun _ => hsecond
  have hquoted : '\'' :: ("2016-12-31 22:59:60.250000000".toList ++ ['\'']) =
      mark :: (inner ++ [mark]) := Except.ok.inj (hliteral.symm.trans hinner)
  obtain ⟨rfl, hbody⟩ := List.cons.inj hquoted
  obtain rfl := List.append_cancel_right hbody
  obtain ⟨s, hs, hrfc⟩ := hrfc (by decide) (by decide) (by decide)
  obtain rfl : "2016-12-31T22:59:60.250-01:00" = s := Except.ok.inj hs
  obtain ⟨hexchange, -⟩ := written_times_scanned fiveDigits .sqlite fun hleap =>
    absurd hplain (Nat.not_lt.2 hleap)
  refine ⟨hsecond, by decide, hliteral, hlocal _ ⟨_, .inl rfl, [' '], ['\n'], by decide, by decide,
    rfl⟩, hrfc _ ⟨_, .inr rfl, [], [' '], by decide, by decide, rfl⟩,
    hexchange hplain _ ⟨_, .inl rfl, ['\t'], [], by decide, by decide, rfl⟩⟩

end Time.Timestamp

end SqlBinding
