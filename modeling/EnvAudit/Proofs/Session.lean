import EnvAudit.Extraction

/-!
# Sessions

A session keeps the automata of the dialects that it has met.  What it keeps for a dialect is
the automaton of that dialect, so it answers every request as a session would that has
not been asked anything before.
-/

namespace EnvAudit

/-- Scripts with markup and those without are read alike. -/
theorem Dialect.automaton_scriptWithMarkup :
    scriptWithMarkup.automaton = plainScript.automaton :=
  rfl

theorem references_scriptWithMarkup (text : String) :
    references text .scriptWithMarkup = references text .plainScript := by
  rw [references, references, Dialect.automaton_scriptWithMarkup]

/-- What a session can be asked about a text. -/
inductive Request where
  | references (text : String) (dialect : Dialect)
  | names (text : String) (dialect : Dialect)

inductive Answer where
  | references (found : Except ParseError (List Reference))
  | names (found : Except ParseError (List String))

namespace Request

def dialect : Request → Dialect
  | references _ dialect => dialect
  | names _ dialect => dialect

/-- The answer without a session. -/
def answer : Request → Answer
  | references text dialect => .references (EnvAudit.references text dialect)
  | names text dialect => .names (referencedNames text dialect)

end Request

namespace Session

def answer (session : Session) : Request → Answer × Session
  | .references text dialect =>
      let (found, session) := session.references text dialect
      (.references found, session)
  | .names text dialect =>
      let (found, session) := session.referencedNames text dialect
      (.names found, session)

/-- The answers to requests in order, and the session after them. -/
def answers (session : Session) : List Request → List Answer × Session
  | [] => ([], session)
  | request :: requests =>
      let (first, session) := session.answer request
      let (others, session) := session.answers requests
      (first :: others, session)

/-- The dialects whose automata are kept. -/
def dialects (session : Session) : List Dialect :=
  session.known.map Prod.fst

/-- What a session knows about dialects is true. -/
def Faithful (session : Session) : Prop :=
  ∀ item ∈ session.known, item.2 = item.1.automaton

theorem faithful_start : start.Faithful := by
  simp [Faithful, start]

namespace Faithful

variable {session : Session}

/-- A faithful session has the automaton of each dialect, and stays faithful. -/
theorem automatonFor (faithful : session.Faithful) (dialect : Dialect) :
    ∃ after, session.automatonFor dialect = (dialect.automaton, after) ∧ after.Faithful := by
  rw [Session.automatonFor]
  split
  · rename_i automaton known
    obtain ⟨before, behind, whole, _⟩ := List.lookup_eq_some_iff.mp known
    have same : automaton = dialect.automaton := faithful (dialect, automaton) (by simp [whole])
    exact ⟨session, by rw [same], faithful⟩
  · refine ⟨_, rfl, ?_⟩
    intro item member
    rcases List.mem_cons.mp member with rfl | old
    · rfl
    · exact faithful item old

theorem references (faithful : session.Faithful) (text : String) (dialect : Dialect) :
    ∃ after, session.references text dialect = (EnvAudit.references text dialect, after) ∧
      after.Faithful := by
  obtain ⟨after, known, faithfulAfter⟩ := faithful.automatonFor dialect
  refine ⟨after, ?_, faithfulAfter⟩
  rw [Session.references, known]
  rfl

theorem answer (faithful : session.Faithful) (request : Request) :
    ∃ after, session.answer request = (request.answer, after) ∧ after.Faithful := by
  cases request with
  | references text dialect =>
      obtain ⟨after, read, faithfulAfter⟩ := faithful.references text dialect
      refine ⟨after, ?_, faithfulAfter⟩
      rw [Session.answer, read]
      rfl
  | names text dialect =>
      obtain ⟨after, read, faithfulAfter⟩ := faithful.references text dialect
      refine ⟨after, ?_, faithfulAfter⟩
      rw [Session.answer, Session.referencedNames, read]
      rfl

theorem answers (faithful : session.Faithful) (requests : List Request) :
    ∃ after, session.answers requests = (requests.map Request.answer, after) ∧
      after.Faithful := by
  -- The session changes with every request; only that it is faithful carries over.
  induction requests generalizing session with
  | nil => exact ⟨session, rfl, faithful⟩
  | cons request requests ih =>
      obtain ⟨next, first, faithfulNext⟩ := faithful.answer request
      obtain ⟨after, others, faithfulAfter⟩ := ih faithfulNext
      refine ⟨after, ?_, faithfulAfter⟩
      rw [Session.answers, first]
      simp only [others, List.map_cons]

theorem answers_fst (faithful : session.Faithful) (requests : List Request) :
    (session.answers requests).1 = requests.map Request.answer := by
  obtain ⟨after, read, _⟩ := faithful.answers requests
  rw [read]

end Faithful

variable (session : Session)

theorem mem_dialects_automatonFor (dialect other : Dialect) :
    other ∈ (session.automatonFor dialect).2.dialects ↔
      other ∈ session.dialects ∨ other = dialect := by
  rw [automatonFor]
  split
  · rename_i automaton known
    obtain ⟨before, behind, whole, _⟩ := List.lookup_eq_some_iff.mp known
    have member : dialect ∈ session.dialects := by simp [dialects, whole]
    constructor
    · exact .inl
    · rintro (old | rfl)
      · exact old
      · exact member
  · rw [dialects, List.map_cons, List.mem_cons, or_comm]
    rfl

/-- A session keeps the automaton for every request, whether or not its text parses. -/
theorem mem_dialects_answer (request : Request) (dialect : Dialect) :
    dialect ∈ (session.answer request).2.dialects ↔
      dialect ∈ session.dialects ∨ dialect = request.dialect := by
  cases request with
  | references text requested => exact session.mem_dialects_automatonFor requested dialect
  | names text requested => exact session.mem_dialects_automatonFor requested dialect

theorem mem_dialects_answers (requests : List Request) (dialect : Dialect) :
    dialect ∈ (session.answers requests).2.dialects ↔
      dialect ∈ session.dialects ∨ dialect ∈ requests.map Request.dialect := by
  induction requests generalizing session with
  | nil => simp [answers]
  | cons request requests ih =>
      rw [List.map_cons, List.mem_cons, ← or_assoc, ← mem_dialects_answer]
      exact ih (session.answer request).2

end Session

/-- A session answers every request as one does that has been asked nothing before, whatever
it has been asked and whichever texts did not parse.  After each request it keeps the automata of
the dialects it has met, and no others; so it answers alike about scripts with markup and
without. -/
theorem session_answers_afresh (requests : List Request) :
    (Session.start.answers requests).1 =
      requests.map (fun request => (Session.start.answer request).1) ∧
    ∀ count, let reached := (Session.start.answers (requests.take count)).2
      reached.Faithful ∧
      (∀ dialect, dialect ∈ reached.dialects ↔
        dialect ∈ (requests.take count).map Request.dialect) ∧
      ∀ text,
        (reached.answer (.references text .scriptWithMarkup)).1 =
          (reached.answer (.references text .plainScript)).1 ∧
        (reached.answer (.names text .scriptWithMarkup)).1 =
          (reached.answer (.names text .plainScript)).1 := by
  have fresh (request : Request) : (Session.start.answer request).1 = request.answer := by
    obtain ⟨after, read, _⟩ := Session.faithful_start.answer request
    rw [read]
  refine ⟨?_, ?_⟩
  · rw [Session.faithful_start.answers_fst]
    exact List.map_congr_left fun request _ => (fresh request).symm
  · intro count reached
    have faithful : reached.Faithful := by
      obtain ⟨after, read, faithfulAfter⟩ :=
        Session.faithful_start.answers (requests.take count)
      simp only [reached, read]
      exact faithfulAfter
    refine ⟨faithful, ?_, ?_⟩
    · intro dialect
      have noneMet : dialect ∉ Session.start.dialects := by
        simp [Session.dialects, Session.start]
      exact (Session.start.mem_dialects_answers _ dialect).trans (or_iff_right noneMet)
    · intro text
      have own (request : Request) : (reached.answer request).1 = request.answer := by
        obtain ⟨after, read, _⟩ := faithful.answer request
        rw [read]
      rw [own, own, own, own]
      simp only [Request.answer, referencedNames, references_scriptWithMarkup, and_self]

end EnvAudit
