import GraphDecl.Proofs.Result

/-!
# Models are declared independently

A run goes from model to model and carries nothing along. The run on a schema whose models are those
of `p` and behind them those of `q` is the run on `p` and then, unless that fails, the run on `q`
(`survey_append`, `entries_result_append`). So a declaration is the one that the run on its model
alone makes, whatever other models the schema has (`outcome_only`).
-/

namespace GraphDecl

namespace Schema

/-- The schema of a single model. -/
def only (key : String) (m : Model) : Schema := empty.insert key m

end Schema

namespace Generator
variable {E P D : Type} {g : Generator E P D} {s p q : Schema}

theorem survey_append (h : s.models.entries = p.models.entries ++ q.models.entries) :
    g.survey s = (g.survey p >>= fun _ => g.survey q) := by
  simp only [survey, h, List.forM_eq_forM, List.forM_append]

theorem entries_result_append (h : s.models.entries = p.models.entries ++ q.models.entries) :
    (g.result s).entries = (g.result p).entries ++ (g.result q).entries := by
  simp only [result, OrderedMap.mapEntries, h, List.map_append]

/-- A model of a schema that is declared can be declared alone, and with the same result. -/
theorem outcome_only (hs : (g.survey s).outcome = .ok ()) {key : String} {m : Model}
    (hm : s.models.get? key = some m) :
    (g.declarations (.only key m)).outcome = .ok (g.result (.only key m)) := by
  refine g.declarations_eq_ok.2 ⟨?_, rfl⟩
  have hstep := Logged.outcome_forM_eq_ok.1 hs (key, m) (OrderedMap.get?_eq_some_iff.1 hm)
  exact Logged.outcome_forM_eq_ok.2 (List.forall_mem_singleton.2 hstep)

/-- A run on the models of `p` and those of `q` behind them succeeds if and only if the runs on `p` and
on `q` do, and gives the entries of the one and then those of the other. It fails as the run on `p`,
whatever `q` is, or else as the run on `q`. What stands under a key is what the run on its model alone
makes, and so it is in every run that succeeds on a schema with that model under that key. -/
theorem declarations_append (h : s.models.entries = p.models.entries ++ q.models.entries) :
    ((∃ r, (g.declarations s).outcome = .ok r) ↔
      (∃ r, (g.declarations p).outcome = .ok r) ∧ ∃ r, (g.declarations q).outcome = .ok r) ∧
    (∀ r, (g.declarations s).outcome = .ok r → ∃ rp rq, (g.declarations p).outcome = .ok rp ∧
      (g.declarations q).outcome = .ok rq ∧ r.entries = rp.entries ++ rq.entries) ∧
    (∀ e, (g.declarations p).outcome = .error e → (g.declarations s).outcome = .error e) ∧
    (∀ rp e, (g.declarations p).outcome = .ok rp → (g.declarations q).outcome = .error e →
      (g.declarations s).outcome = .error e) ∧
    ∀ r, (g.declarations s).outcome = .ok r → ∀ key m, s.models.get? key = some m →
      ∃ d, r.get? key = some d ∧
        (∃ alone, (g.declarations (.only key m)).outcome = .ok alone ∧ alone.entries = [(key, d)]) ∧
        ∀ t r', (g.declarations t).outcome = .ok r' → t.models.get? key = some m →
          r'.get? key = some d := by
  have hsurvey := survey_append (g := g) h
  simp only [declarations_eq_ok, declarations_eq_error, hsurvey, Logged.outcome_then_eq_ok,
    Logged.outcome_then_eq_error]
  refine ⟨?_, ?_, fun e he => .inl he, fun rp e hp he => .inr ⟨hp.1, he⟩, ?_⟩
  · constructor
    · rintro ⟨-, ⟨hp, hq⟩, -⟩
      exact ⟨⟨_, hp, rfl⟩, ⟨_, hq, rfl⟩⟩
    · rintro ⟨⟨-, hp, -⟩, ⟨-, hq, -⟩⟩
      exact ⟨_, ⟨hp, hq⟩, rfl⟩
  · rintro r ⟨⟨hp, hq⟩, rfl⟩
    exact ⟨_, _, ⟨hp, rfl⟩, ⟨hq, rfl⟩, entries_result_append h⟩
  · rintro r ⟨hok, rfl⟩ key m hm
    have hs : (g.survey s).outcome = .ok () := by rw [hsurvey]; exact Logged.outcome_then_eq_ok.2 hok
    refine ⟨g.declarationOf key m, g.get?_result_of_get? hm, ?_, ?_⟩
    · exact ⟨_, g.declarations_eq_ok.1 (outcome_only hs hm), rfl⟩
    · rintro t r' ⟨-, rfl⟩ ht
      exact g.get?_result_of_get? ht

/-- A user and an event, which has a time of unknown type. -/
def user : Schema := .only "User" (.withField (.new "User") (.new "id" .integer))

def event : Schema := .only "Event" (.withField (.new "Event") (.new "at" (.unknown "date")))

/-- The event behind the user. -/
def userAndEvent : Schema where
  models := ⟨user.models.entries ++ event.models.entries, by decide⟩

theorem declarations_append_userAndEvent :
    userAndEvent.models.entries = user.models.entries ++ event.models.entries ∧
      (({} : Options).generator.declarations userAndEvent).outcome =
        .error (.unknownType "Event" "at" "date") ∧
      ∃ r rp rq, let g := (({} : Options).withUnknownTypes .permissive).generator
        (g.declarations userAndEvent).outcome = .ok r ∧ (g.declarations user).outcome = .ok rp ∧
          (g.declarations event).outcome = .ok rq ∧ r.entries = rp.entries ++ rq.entries ∧
          r.get? "Event" = rq.get? "Event" := by
  have hsplit : userAndEvent.models.entries = user.models.entries ++ event.models.entries := rfl
  obtain ⟨-, -, -, hfail, -⟩ := declarations_append (g := ({} : Options).generator) hsplit
  obtain ⟨-, hentries, -, -, halone⟩ :=
    declarations_append (g := (({} : Options).withUnknownTypes .permissive).generator) hsplit
  obtain ⟨rp, rq, hp, hq, hr⟩ := hentries _ rfl
  obtain ⟨d, hd, -, hsame⟩ := halone _ rfl "Event" _ rfl
  exact ⟨hsplit, hfail _ _ rfl rfl, _, rp, rq, rfl, hp, hq, hr, hd.trans (hsame event rq hq rfl).symm⟩

end Generator
end GraphDecl
