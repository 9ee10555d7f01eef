import SqlBinding.Scripted.Report

/-!
# What a report remembers

The two questions of a report are answered from memory once the driver has answered them. The cell
of the number of rows also holds the mark for a number that cannot be known, which is a number that
a driver can answer: a count that equals the mark is given out once and denied from then on
(`remembered_unless_unknown`).

`inquire` runs any sequence of the two questions and notes, beside the answers, what the driver was
asked meanwhile.
-/

set_option autoImplicit false

namespace SqlBinding

open Numeric

/-- The questions that a report is asked. -/
inductive Question
  | lastInsertId
  | rowsAffected
  deriving DecidableEq, Repr

namespace Question

variable {ρ : Type} [Report ρ]

/-- Puts a question to the driver. -/
def put : Question → ρ → Except Error I64 × ρ
  | lastInsertId => Report.lastInsertId
  | rowsAffected => Report.rowsAffected

/-- Puts questions to the driver one after the other. -/
def putAll : List Question → ρ → List (Question × Except Error I64)
  | [], _ => []
  | q :: questions, r => (q, (q.put r).1) :: putAll questions (q.put r).2

/-- Whether the drivers of a dialect can be asked. -/
def reaches (d : Dialect) : Question → Bool
  | lastInsertId => d.supportsLastInsertId
  | rowsAffected => true

/-- Two states of a driver answer a question alike, also if the first is asked the other question
in between. -/
def Alike (q : Question) (r s : ρ) : Prop :=
  ∀ questions, (putAll questions r).filter (·.1 = q) = putAll (questions.filter (· = q)) s

/-- States stay alike when the first is asked the other question. -/
theorem Alike.of_other {q other : Question} {r s : ρ} (h : q.Alike r s) (hother : other ≠ q) :
    q.Alike (other.put r).2 s := by
  intro questions
  have hcons := h (other :: questions)
  rwa [putAll, List.filter_cons_of_neg (by simpa using hother),
    List.filter_cons_of_neg (by simpa using hother)] at hcons

/-- States that are alike answer the question alike and stay alike. -/
theorem Alike.of_same {q : Question} {r s : ρ} (h : q.Alike r s) :
    (q.put r).1 = (q.put s).1 ∧ q.Alike (q.put r).2 (q.put s).2 := by
  have hcons (questions : List Question) := h (q :: questions)
  simp only [putAll, decide_true, List.filter_cons_of_pos, List.cons.injEq, Prod.mk.injEq,
    true_and] at hcons
  exact ⟨(hcons []).1, fun questions => (hcons questions).2⟩

/-- A driver whose answers to one question do not depend on whether it is asked the other. -/
def Separate (r : ρ) : Prop := ∀ q : Question, q.Alike r r

end Question

/-- A report with the driver's answers to the questions that were put to it. -/
structure Watched (ρ : Type) where
  report : ρ
  told : List (Question × Except Error I64)

namespace Watched

variable {ρ : Type} [Report ρ]

/-- Puts a question to the driver and notes the answer. -/
def watch (q : Question) (w : Watched ρ) : Except Error I64 × Watched ρ :=
  ((q.put w.report).1, ⟨(q.put w.report).2, w.told ++ [(q, (q.put w.report).1)]⟩)

instance : Report (Watched ρ) where
  lastInsertId := watch .lastInsertId
  rowsAffected := watch .rowsAffected

/-- Asking a watched driver is watching the question. -/
theorem put_eq (q : Question) (w : Watched ρ) : q.put w = watch q w := by
  cases q with
  | lastInsertId => rfl
  | rowsAffected => rfl

end Watched

namespace Affected

variable {ρ : Type}

/-- The number remembered for a question. -/
def memo (a : Affected ρ) : Question → Option I64
  | .lastInsertId => a.lastInsertId
  | .rowsAffected => a.rowsAffected

/-- Remembers the answer of the driver, if it gave one. -/
def learn (a : Affected ρ) (outcome : Except Error I64) (r : ρ) : Question → Affected ρ
  | .lastInsertId => { a with report := some r, lastInsertId := outcome.toOption }
  | .rowsAffected => { a with report := some r, rowsAffected := outcome.toOption }

/-- What a remembered number is answered by: itself, unless it is the mark for unknown rows. -/
def recalled (d : Dialect) (q : Question) (n : I64) : Except Error I64 :=
  if q = .rowsAffected ∧ n = unknownRows then .error (.unsupportedByDialect .rowsAffected d)
  else .ok n

/-- A number that is recalled is the one that was remembered. -/
theorem eq_of_recalled_eq_ok {d : Dialect} {q : Question} {m n : I64}
    (h : recalled d q m = .ok n) : m = n := by
  unfold recalled at h
  split at h
  · cases h
  · exact Except.ok.inj h

/-- Learning an answer puts the new state of the driver in the place of the old one. -/
@[simp]
theorem learn_report (a : Affected ρ) (outcome : Except Error I64) (r : ρ) (q : Question) :
    (a.learn outcome r q).report = some r := by
  cases q <;> rfl

/-- Learning an answer does not change the dialect. -/
@[simp]
theorem learn_dialect (a : Affected ρ) (outcome : Except Error I64) (r : ρ) (q : Question) :
    (a.learn outcome r q).dialect = a.dialect := by
  cases q <;> rfl

/-- Learning an answer changes the memory of its own question only. -/
theorem memo_learn (a : Affected ρ) (outcome : Except Error I64) (r : ρ) (q q' : Question) :
    (a.learn outcome r q).memo q' = if q' = q then outcome.toOption else a.memo q' := by
  cases q <;> cases q' <;> rfl

variable [Report ρ]

/-- Asks a question. -/
def read (a : Affected ρ) : Question → Except Error I64 × Affected ρ
  | .lastInsertId => a.readLastInsertId
  | .rowsAffected => a.readRowsAffected

/-- Asks questions one after the other. -/
def readAll : List Question → Affected ρ → List (Question × Except Error I64)
  | [], _ => []
  | q :: questions, a => (q, (a.read q).1) :: readAll questions (a.read q).2

/-- A question is answered from memory, or denied by the dialect, or else put to the driver. -/
theorem read_eq (a : Affected ρ) (q : Question) {r : ρ} (hr : a.report = some r) :
    a.read q =
      match a.memo q with
      | some n => (recalled a.dialect q n, a)
      | none =>
        if q.reaches a.dialect then ((q.put r).1, a.learn (q.put r).1 (q.put r).2 q)
        else (.error (.unsupportedByDialect .lastInsertId a.dialect), a) := by
  obtain ⟨report, dialect, id, rows⟩ := a
  cases hr
  cases q with
  | lastInsertId =>
    cases id with
    | some n => rfl
    | none =>
      change (if dialect.supportsLastInsertId then _ else _) =
        if dialect.supportsLastInsertId then _ else _
      by_cases hsupports : dialect.supportsLastInsertId
      · rw [if_pos hsupports, if_pos hsupports]
        simp only [Question.put, learn]
        rcases Report.lastInsertId r with ⟨e | n, r'⟩
        · rfl
        · rfl
      · rw [if_neg hsupports, if_neg hsupports]
        rfl
  | rowsAffected =>
    cases rows with
    | some n =>
      simp only [read, readRowsAffected, memo, recalled, true_and, unsupported]
      split
      · rfl
      · rfl
    | none =>
      simp only [read, readRowsAffected, memo, Question.reaches, if_true, Question.put, learn]
      rcases Report.rowsAffected r with ⟨e | n, r'⟩
      · rfl
      · rfl

/-- Calls of one question have the answers that they have if the other is never asked, where the
driver keeps the two apart. -/
theorem filter_readAll {q : Question} {a b : Affected ρ} {r s : ρ} (questions : List Question)
    (ha : a.report = some r) (hb : b.report = some s) (hdialect : a.dialect = b.dialect)
    (hmemo : a.memo q = b.memo q) (halike : q.Alike r s) :
    (readAll questions a).filter (·.1 = q) = readAll (questions.filter (· = q)) b := by
  induction questions generalizing a b r s with
  | nil => rfl
  | cons other questions ih =>
    by_cases hother : other = q
    · subst hother
      rw [List.filter_cons_of_pos (by simp), readAll, readAll, List.filter_cons_of_pos (by simp),
        read_eq a other ha, read_eq b other hb, ← hmemo, ← hdialect]
      cases hn : a.memo other with
      | some n => exact congrArg _ (ih ha hb hdialect hmemo halike)
      | none =>
        obtain ⟨hanswer, halike'⟩ := halike.of_same
        dsimp only
        split
        · rw [hanswer]
          refine congrArg _ (ih (learn_report ..) (learn_report ..) ?_ ?_ halike')
          · rw [learn_dialect, learn_dialect, hdialect]
          · rw [memo_learn, memo_learn, if_pos rfl, if_pos rfl]
        · exact congrArg _ (ih ha hb hdialect hmemo halike)
    · -- The other question changes its own memory and the driver, never what is remembered of `q`.
      rw [List.filter_cons_of_neg (by simpa using hother), readAll,
        List.filter_cons_of_neg (by simpa using hother), read_eq a other ha]
      cases a.memo other with
      | some n => exact ih ha hb hdialect hmemo halike
      | none =>
        dsimp only
        split
        · refine ih (learn_report ..) hb ?_ ?_ (halike.of_other hother)
          · rw [learn_dialect, hdialect]
          · rw [memo_learn, if_neg (Ne.symm hother), hmemo]
        · exact ih ha hb hdialect hmemo halike

end Affected

/-! ### Reports written down beforehand -/

namespace Scripted.ReportScript

/-- The answers written down for a question. -/
def script (r : ReportScript) : Question → Script
  | .lastInsertId => r.lastInsertId
  | .rowsAffected => r.rowsAffected

/-- A scripted driver answers a question from the script of that question. -/
theorem put_fst (q : Question) (r : ReportScript) : (q.put r).1 = (r.script q).read.1 := by
  cases q <;> rfl

/-- A scripted driver goes on in the script of the question it is asked, and in no other. -/
theorem script_put (q other : Question) (r : ReportScript) :
    (q.put r).2.script other = if other = q then (r.script q).read.2 else r.script other := by
  cases q <;> cases other <;> rfl

/-- States with one script for a question answer it alike. -/
theorem alike {q : Question} {r s : ReportScript} (h : r.script q = s.script q) : q.Alike r s := by
  intro questions
  induction questions generalizing r s with
  | nil => rfl
  | cons other questions ih =>
    by_cases hother : other = q
    · subst hother
      rw [List.filter_cons_of_pos (by simp), Question.putAll, Question.putAll,
        List.filter_cons_of_pos (by simp), put_fst, put_fst, h]
      refine congrArg _ (ih ?_)
      rw [script_put, script_put, if_pos rfl, if_pos rfl, h]
    · rw [List.filter_cons_of_neg (by simpa using hother), Question.putAll,
        List.filter_cons_of_neg (by simpa using hother)]
      apply ih
      rw [script_put, if_neg (Ne.symm hother), h]

/-- The questions of a scripted driver do not disturb each other. -/
theorem separate (r : ReportScript) : Question.Separate r := fun _ => alike rfl

end Scripted.ReportScript

/-! ### Inquiries -/

/-- A question asked of a report, with the answer and what the driver was asked meanwhile. -/
structure Inquiry where
  question : Question
  answer : Except Error I64
  said : List (Question × Except Error I64)

namespace Affected

variable {ρ : Type} [Report ρ]

/-- All that the driver was asked so far. -/
def told (a : Affected (Watched ρ)) : List (Question × Except Error I64) :=
  match a.report with
  | some w => w.told
  | none => []

/-- Asks questions one after the other and notes what the driver is asked each time. -/
def inquire : List Question → Affected (Watched ρ) → List Inquiry
  | [], _ => []
  | q :: questions, a =>
    ⟨q, (a.read q).1, (a.read q).2.told.drop a.told.length⟩ :: inquire questions (a.read q).2

/-- Watching the driver changes no answer. -/
theorem answers_inquire {a : Affected (Watched ρ)} {b : Affected ρ} {w : Watched ρ}
    (questions : List Question) (ha : a.report = some w) (hb : b.report = some w.report)
    (hdialect : a.dialect = b.dialect) (hmemo : a.memo = b.memo) :
    (inquire questions a).map (fun c => (c.question, c.answer)) = readAll questions b := by
  induction questions generalizing a b w with
  | nil => rfl
  | cons q questions ih =>
    rw [inquire, readAll, List.map_cons, read_eq a q ha, read_eq b q hb, ← hmemo, ← hdialect,
      Watched.put_eq]
    cases a.memo q with
    | some n => exact congrArg _ (ih ha hb hdialect hmemo)
    | none =>
      dsimp only
      split
      · refine congrArg _ (ih (learn_report ..) (learn_report ..) ?_ ?_)
        · rw [learn_dialect, learn_dialect, hdialect]
        · funext q'
          rw [memo_learn, memo_learn, hmemo]
          rfl
      · exact congrArg _ (ih ha hb hdialect hmemo)

end Affected

namespace Inquiry

open Affected

/-- How a call goes whose question is answered by a number from memory, if there is one. -/
def Follows (d : Dialect) (c : Inquiry) : Option I64 → Prop
  | some n => c.said = [] ∧ c.answer = recalled d c.question n
  | none =>
    if c.question.reaches d then c.said = [(c.question, c.answer)]
    else c.said = [] ∧ c.answer = .error (.unsupportedByDialect .lastInsertId d)

/-- What is remembered after a call. -/
def remembered (memo : Question → Option I64) (c : Inquiry) (q : Question) : Option I64 :=
  if q = c.question then (memo q).or c.answer.toOption else memo q

/-- An inquiry that adds nothing to the memory of its question leaves the memory as it is. -/
theorem remembered_eq_self {memo : Question → Option I64} {c : Inquiry}
    (h : (memo c.question).or c.answer.toOption = memo c.question) : c.remembered memo = memo := by
  funext q
  unfold remembered
  split
  · rename_i hq
    rw [hq, h]
  · rfl

/-- How calls go, one after the other. -/
def Follow (d : Dialect) : (Question → Option I64) → List Inquiry → Prop
  | _, [] => True
  | memo, c :: calls => c.Follows d (memo c.question) ∧ Follow d (c.remembered memo) calls

/-- The later of two calls of one question gives what the earlier gave, from memory. -/
def Recalls (d : Dialect) (c later : Inquiry) : Prop :=
  c.question = later.question → ∀ n, c.answer = .ok n →
    later.said = [] ∧ later.answer = recalled d later.question n

/-- What is remembered before a run is recalled all through it, and the driver is not asked. -/
theorem Follow.answer_of_memo {d : Dialect} {memo : Question → Option I64} {calls : List Inquiry}
    (h : Follow d memo calls) {c : Inquiry} (hc : c ∈ calls) {n : I64}
    (hn : memo c.question = some n) : c.said = [] ∧ c.answer = recalled d c.question n := by
  induction calls generalizing memo with
  | nil => cases hc
  | cons first calls ih =>
    obtain ⟨hfirst, hrest⟩ := h
    cases hc with
    | head => rwa [hn] at hfirst
    | tail _ hc =>
      apply ih hrest hc
      rw [remembered, hn]
      simp

/-- In a run, every later inquiry recalls what an earlier one came to. -/
theorem Follow.pairwise {d : Dialect} {memo : Question → Option I64} {calls : List Inquiry}
    (h : Follow d memo calls) : calls.Pairwise (Recalls d) := by
  induction calls generalizing memo with
  | nil => exact .nil
  | cons c calls ih =>
    obtain ⟨hc, hrest⟩ := h
    refine .cons (fun later hlater hquestion n hn => ?_) (ih hrest)
    apply hrest.answer_of_memo hlater
    rw [remembered, if_pos hquestion.symm, ← hquestion]
    -- Either the call learnt its number from the driver, or it repeated one from memory.
    cases hmemo : memo c.question with
    | none => rw [hn]; rfl
    | some m =>
      rw [hmemo] at hc
      rw [eq_of_recalled_eq_ok (hc.2.symm.trans hn)]
      rfl

/-- As long as a question has had no success, the driver is asked again. -/
theorem Follow.asks_again {d : Dialect} {memo : Question → Option I64} {before after : List Inquiry}
    {c : Inquiry} (h : Follow d memo (before ++ c :: after)) (hmemo : memo c.question = none)
    (hfailed : ∀ b ∈ before, b.question = c.question → ∀ n, b.answer ≠ .ok n) :
    c.Follows d none := by
  induction before generalizing memo with
  | nil => exact hmemo ▸ h.1
  | cons b before ih =>
    apply ih h.2
    · rw [remembered, hmemo]
      split
      · rename_i hquestion
        cases hb : b.answer with
        | error e => rfl
        | ok n => exact absurd hb (hfailed b (List.mem_cons_self ..) hquestion.symm n)
      · rfl
    · exact fun b' hb' => hfailed b' (List.mem_cons_of_mem _ hb')

end Inquiry

namespace Affected

variable {ρ : Type} [Report ρ]

/-- The inquiries of a run follow from the memory that the run begins with. -/
theorem follow_inquire {a : Affected (Watched ρ)} {w : Watched ρ} (questions : List Question)
    (ha : a.report = some w) : Inquiry.Follow a.dialect a.memo (inquire questions a) := by
  induction questions generalizing a w with
  | nil => trivial
  | cons q questions ih =>
    rw [inquire, read_eq a q ha, Watched.put_eq]
    cases hmemo : a.memo q with
    | some n =>
      refine ⟨?_, ?_⟩
      · simp [Inquiry.Follows, hmemo]
      · rw [Inquiry.remembered_eq_self (by simp [hmemo])]
        exact ih ha
    | none =>
      by_cases hreaches : q.reaches a.dialect
      · simp only [if_pos hreaches]
        have hsaid : (a.learn (w.watch q).1 (w.watch q).2 q).told.drop a.told.length =
            [(q, (w.watch q).1)] := by
          rw [told, told, learn_report, ha]
          exact List.drop_left
        have hlearnt (said : List (Question × Except Error I64)) :
            Inquiry.remembered a.memo ⟨q, (w.watch q).1, said⟩ =
              (a.learn (w.watch q).1 (w.watch q).2 q).memo := by
          funext q'
          rw [memo_learn]
          by_cases hq : q' = q
          · simp [Inquiry.remembered, hq, hmemo]
          · simp [Inquiry.remembered, hq]
        refine ⟨?_, ?_⟩
        · simp only [hmemo, Inquiry.Follows, if_pos hreaches]
          exact hsaid
        · rw [hlearnt]
          have hrest := ih (learn_report a (w.watch q).1 (w.watch q).2 q)
          rwa [learn_dialect] at hrest
      · simp only [if_neg hreaches]
        refine ⟨?_, ?_⟩
        · simp only [hmemo, Inquiry.Follows, if_neg hreaches]
          simp
        · rw [Inquiry.remembered_eq_self (by rw [hmemo]; rfl)]
          exact ih ha

end Affected

namespace Inquiry

/-- The later of two calls of one question gives what the earlier gave, and does not trouble the
driver. -/
def Keeps (c later : Inquiry) : Prop :=
  c.question = later.question → ∀ n, c.answer = .ok n → later.answer = .ok n ∧ later.said = []

/-- The number of rows is asked for again after the driver answered the mark for unknown rows. -/
def Denied (c later : Inquiry) : Prop :=
  c.question = .rowsAffected ∧ c.answer = .ok unknownRows ∧ later.question = .rowsAffected

/-- A number that was given once is given again unless it is denied. -/
theorem pairwise_keeps_iff {d : Dialect} {calls : List Inquiry} (h : calls.Pairwise (Recalls d)) :
    calls.Pairwise Keeps ↔ calls.Pairwise fun c later => ¬ Denied c later := by
  constructor
  · intro hkeeps
    refine (h.and hkeeps).imp fun {c later} hpair hdenied => ?_
    obtain ⟨hrecalls, hkeeps⟩ := hpair
    obtain ⟨hc, hanswer, hlater⟩ := hdenied
    have hsame := hc.trans hlater.symm
    have hrecalled := (hrecalls hsame unknownRows hanswer).2
    rw [(hkeeps hsame unknownRows hanswer).1, Affected.recalled, if_pos ⟨hlater, rfl⟩] at hrecalled
    cases hrecalled
  · intro hknown
    refine (h.and hknown).imp fun {c later} hpair hsame n hn => ?_
    obtain ⟨hrecalls, hknown⟩ := hpair
    obtain ⟨hsaid, hanswer⟩ := hrecalls hsame n hn
    have hnot : ¬ (later.question = .rowsAffected ∧ n = unknownRows) := fun ⟨hlater, hunknown⟩ =>
      hknown ⟨hsame.trans hlater, hunknown ▸ hn, hlater⟩
    rw [Affected.recalled, if_neg hnot] at hanswer
    exact ⟨hanswer, hsaid⟩

end Inquiry

namespace Affected

variable {ρ : Type} [Report ρ]

/-- Whatever the driver answers and in whatever order the two questions are asked: a question that
has had no success yet is put to the driver, if the dialect has it, and gets the driver's answer; a
number that was given is given again from memory, which fails exactly for a count that equals the
mark for unknown rows; and the calls of one question go as if the other were never asked, as far as
the driver keeps the two apart. -/
theorem remembered_unless_unknown (r : ρ) (d : Dialect) (questions : List Question) :
    (inquire questions (ofReport ⟨r, []⟩ d)).map (fun c => (c.question, c.answer)) =
        readAll questions (ofReport r d) ∧
      (∀ before c after, inquire questions (ofReport ⟨r, []⟩ d) = before ++ c :: after →
        (∀ b ∈ before, b.question = c.question → ∀ n, b.answer ≠ .ok n) → c.Follows d none) ∧
      (inquire questions (ofReport ⟨r, []⟩ d)).Pairwise (Inquiry.Recalls d) ∧
      ((inquire questions (ofReport ⟨r, []⟩ d)).Pairwise Inquiry.Keeps ↔
        (inquire questions (ofReport ⟨r, []⟩ d)).Pairwise
          fun c later => ¬ Inquiry.Denied c later) ∧
      (Question.Separate r → ∀ q,
        (readAll questions (ofReport r d)).filter (·.1 = q) =
          readAll (questions.filter (· = q)) (ofReport r d)) := by
  have hfollow := follow_inquire (a := ofReport ⟨r, []⟩ d) questions rfl
  refine ⟨?_, ?_, hfollow.pairwise, Inquiry.pairwise_keeps_iff hfollow.pairwise, ?_⟩
  · exact answers_inquire questions rfl rfl rfl (funext fun q => by cases q <;> rfl)
  · intro before c after hcalls hfailed
    rw [hcalls] at hfollow
    exact hfollow.asks_again (by cases c.question <;> rfl) hfailed
  · intro hseparate q
    exact filter_readAll questions rfl rfl rfl rfl (hseparate q)

/-- A driver that answers −1 is believed once. -/
theorem minusOne_denied :
    ¬ (inquire [.rowsAffected, .rowsAffected]
      (ofReport ⟨{ rowsAffected := ⟨.ok minusOne, []⟩ : Scripted.ReportScript }, []⟩
        .sqlite)).Pairwise Inquiry.Keeps := by
  intro h
  cases h with
  | cons h _ =>
    have hagain := h _ (List.mem_singleton_self _) rfl minusOne rfl
    cases hagain.1

/-- A driver that at first has no id, then one, and that counts three rows and then four. -/
def moody : Scripted.ReportScript where
  lastInsertId := ⟨.error (.driver "no id"), [.ok ⟨42, by decide, by decide⟩]⟩
  rowsAffected := ⟨.ok ⟨3, by decide, by decide⟩, [.ok ⟨4, by decide, by decide⟩]⟩

/-- Both questions in turn. -/
def inTurn : List Question :=
  [.lastInsertId, .rowsAffected, .lastInsertId, .rowsAffected, .lastInsertId]

/-- A driver whose answers change, and fail once: it is asked until it answers, and the first answer
is kept although the questions take turns. -/
theorem moody_remembered :
    Question.Separate moody ∧
      (readAll inTurn (ofReport moody .mySql)).filter (·.1 = .rowsAffected) =
        readAll [.rowsAffected, .rowsAffected] (ofReport moody .mySql) ∧
      (∃ before c after, inquire inTurn (ofReport ⟨moody, []⟩ .mySql) = before ++ c :: after ∧
        before.length = 2 ∧ c.Follows .mySql none) ∧
      (inquire inTurn (ofReport ⟨moody, []⟩ .mySql)).Pairwise Inquiry.Keeps := by
  have hseparate := Scripted.ReportScript.separate moody
  obtain ⟨-, hasks, -, hkeeps, hfilter⟩ := remembered_unless_unknown moody .mySql inTurn
  let three : I64 := ⟨3, by decide, by decide⟩
  let fortyTwo : I64 := ⟨42, by decide, by decide⟩
  have hcalls : inquire inTurn (ofReport ⟨moody, []⟩ .mySql) =
      [⟨.lastInsertId, .error (.driver "no id"), [(.lastInsertId, .error (.driver "no id"))]⟩,
        ⟨.rowsAffected, .ok three, [(.rowsAffected, .ok three)]⟩] ++
      ⟨.lastInsertId, .ok fortyTwo, [(.lastInsertId, .ok fortyTwo)]⟩ ::
      [⟨.rowsAffected, .ok three, []⟩, ⟨.lastInsertId, .ok fortyTwo, []⟩] := rfl
  refine ⟨hseparate, hfilter hseparate .rowsAffected, ⟨_, _, _, hcalls, rfl, ?_⟩, hkeeps.2 ?_⟩
  · exact hasks _ _ _ hcalls (by simp)
  · have hknown : ∀ c ∈ inquire inTurn (ofReport ⟨moody, []⟩ .mySql),
        c.answer ≠ .ok unknownRows := by
      rw [hcalls]
      simp [three, fortyTwo, unknownRows, minusOne]
    exact List.pairwise_of_forall_mem_list fun c hc later _ hdenied => hknown c hc hdenied.2.1

end Affected

end SqlBinding
