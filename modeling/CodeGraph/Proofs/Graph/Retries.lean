import CodeGraph.Proofs.Graph.Server

/-! # How often a request is sent

A request that fails for a reason that may pass is sent again, as long as retries are left. Whatever
becomes of the requests one after the other (`Transport.scripted`), the first outcome of another
kind is the one that the sender is told, and no request is sent after it; if there is none among the
requests that may be sent, all of them are sent and the last failure is told
(`Remote.commitFrom_scripted`). An answer that comes back whole is always such an outcome
(`Remote.not_isTransient_answered`). -/

namespace CodeGraph

/-- A network in which it is given what becomes of each request, by its number. It keeps the
requests that have been sent, in order. -/
def Transport.scripted (fates : Nat → Exchange) : Transport (List RemoteRequest) :=
  fun request sent => (fates sent.length, sent ++ [request])

namespace Remote

/-- **The outcome of a request is a failure that may pass** when the request is sent again. -/
def IsTransient {α : Type} (outcome : Except GraphError α) : Prop :=
  ∃ e, outcome = .error e ∧ e.isTransient

/-! ## Outcomes -/

/-- A whole answer gives results, or says that the sender is not let in, that the request failed or
that a statement failed, or cannot be read. -/
theorem readAnswer_cases (c : RemoteConfig) (status : Nat) (body : String) :
    (∃ results, readAnswer c status body = .ok results) ∨
    (∃ problem, readAnswer c status body = .error (.connection problem)) ∨
    (∃ problem, readAnswer c status body = .error (.write problem)) ∨
    (∃ code problem, readAnswer c status body = .error (.query code problem)) ∨
    readAnswer c status body = .error decodingError := by
  rw [readAnswer]
  by_cases hrefused : (status == 401 || status == 403) = true
  · rw [if_pos hrefused]
    exact .inr (.inl ⟨_, rfl⟩)
  rw [if_neg hrefused]
  by_cases hfailed : (decide (status < 200) || decide (300 ≤ status)) = true
  · rw [if_pos hfailed]
    exact .inr (.inr (.inl ⟨_, rfl⟩))
  rw [if_neg hfailed]
  cases hparse : DatabaseResponse.parse? body with
  | none => exact .inr (.inr (.inr (.inr rfl)))
  | some response =>
    cases herrors : response.errors with
    | nil =>
      simp only [herrors]
      exact .inl ⟨_, rfl⟩
    | cons e es =>
      simp only [herrors]
      exact .inr (.inr (.inr (.inl ⟨_, _, rfl⟩)))

/-- A whole answer, whatever it says, is no failure that may pass. -/
theorem not_isTransient_answered (r : Remote) (url : String) (status : Nat) (body : String) :
    ¬ IsTransient (r.hear url (.answered status body)) := by
  rintro ⟨e, he, htransient⟩
  rw [not_isTransient_of_readAnswer he] at htransient
  cases htransient

/-- Of an answer that breaks off nothing can be read. It is a failure that may pass if it took too
long, unless its status already says what went wrong. -/
theorem isTransient_readCutOff {c : RemoteConfig} {status : Nat} {timedOut : Bool} :
    IsTransient (readCutOff c status timedOut) ↔ 200 ≤ status ∧ status < 300 ∧ timedOut := by
  have hempty : DatabaseResponse.parse? "" = none := rfl
  rw [readCutOff, readAnswer, hempty]
  by_cases hrefused : (status == 401 || status == 403) = true
  · rw [if_pos hrefused]
    simp only [Bool.or_eq_true, beq_iff_eq] at hrefused
    constructor
    · rintro ⟨e, he, htransient⟩
      cases he
      cases htransient
    · intro h
      omega
  rw [if_neg hrefused]
  by_cases hfailed : (decide (status < 200) || decide (300 ≤ status)) = true
  · rw [if_pos hfailed]
    simp only [Bool.or_eq_true, decide_eq_true_eq] at hfailed
    constructor
    · rintro ⟨e, he, htransient⟩
      cases he
      cases htransient
    · intro h
      omega
  rw [if_neg hfailed]
  simp only [Bool.or_eq_true, decide_eq_true_eq, not_or, not_lt, not_le] at hfailed
  -- of the kinds of errors that may pass, one that comes up in reading can only be out of time
  have hkind : ∀ problem, (GraphError.http { step := .decoding, problem, timedOut }).isTransient
      = timedOut := fun problem => by cases timedOut <;> rfl
  constructor
  · rintro ⟨e, he, htransient⟩
    cases he
    exact ⟨hfailed.1, hfailed.2, (hkind _).symm.trans htransient⟩
  · rintro ⟨-, -, htimedOut⟩
    exact ⟨_, rfl, (hkind _).trans htimedOut⟩

/-- **The failures that may pass**: no answer came back, or it broke off because it took too
long. -/
theorem isTransient_hear_iff (r : Remote) (url : String) (exchange : Exchange) :
    IsTransient (r.hear url exchange) ↔
      (∃ cause, exchange = .lost cause) ∨
        ∃ status, 200 ≤ status ∧ status < 300 ∧ exchange = .cutOff status true := by
  cases exchange with
  | lost cause =>
    exact ⟨fun _ => .inl ⟨cause, rfl⟩, fun _ => ⟨_, rfl, isTransient_lossError url cause⟩⟩
  | cutOff status timedOut =>
    rw [hear, isTransient_readCutOff]
    constructor
    · rintro ⟨hlow, hhigh, htimedOut⟩
      exact .inr ⟨status, hlow, hhigh, by rw [htimedOut]⟩
    · rintro (⟨cause, h⟩ | ⟨status', hlow, hhigh, h⟩)
      · cases h
      · cases h
        exact ⟨hlow, hhigh, rfl⟩
  | answered status body =>
    constructor
    · intro h
      exact absurd h (not_isTransient_answered r url status body)
    · rintro (⟨cause, h⟩ | ⟨status', -, -, h⟩) <;> cases h

/-! ## Attempts -/

section Attempts

variable {τ : Type} {r : Remote} {transport : Transport τ} {statements : List Statement} {s : τ}

/-- **One attempt**: any outcome but a failure that may pass ends the attempts. -/
theorem value_commitFrom_of_not_isTransient
    (h : ¬ IsTransient (r.send transport statements s).1) (retries attempt : Nat) :
    (r.commitFrom transport statements retries attempt s).value
      = r.send transport statements s := by
  cases retries with
  | zero => rw [commitFrom, Logged.value_pure]
  | succ retries =>
    rw [commitFrom]
    cases hsend : r.send transport statements s with
    | mk outcome s' =>
      rw [hsend] at h
      cases outcome with
      | ok results => rfl
      | error e =>
        have he : ¬ e.isTransient := fun he => h ⟨e, rfl, he⟩
        simp only [he, Bool.false_eq_true, if_false, Logged.value_pure]

/-- **One attempt**: after a failure that may pass the request is sent again, if retries are
left. -/
theorem value_commitFrom_of_isTransient
    (h : IsTransient (r.send transport statements s).1) (retries attempt : Nat) :
    (r.commitFrom transport statements (retries + 1) attempt s).value
      = (r.commitFrom transport statements retries (attempt + 1)
          (r.send transport statements s).2).value := by
  obtain ⟨e, hsend, he⟩ := h
  have hpair : r.send transport statements s = (.error e, (r.send transport statements s).2) :=
    Prod.ext hsend rfl
  rw [commitFrom, hpair]
  simp only [he, if_true, Logged.value_bind]

end Attempts

section Scripted

variable {r : Remote} {url : String} {fates : Nat → Exchange}

/-- One `send` over scripted exchanges: the next fate is heard, and one request is recorded as
sent. -/
theorem send_scripted (hurl : r.address = some url) (fates : Nat → Exchange)
    (statements : List Statement) (sent : List RemoteRequest) :
    r.send (.scripted fates) statements sent
      = (r.hear url (fates sent.length),
        sent ++ [⟨url, r.config.username, r.config.password, statements⟩]) := by
  simp only [send, hurl, Transport.scripted]

/-- **All attempts**: the request is sent until its outcome is something else than a failure that
may pass, or no retries are left. -/
theorem commitFrom_scripted (hurl : r.address = some url) (fates : Nat → Exchange)
    (statements : List Statement) (retries attempt : Nat) (sent : List RemoteRequest) :
    ∃ k ≤ retries, (∀ i < k, IsTransient (r.hear url (fates (sent.length + i)))) ∧
      (k < retries → ¬ IsTransient (r.hear url (fates (sent.length + k)))) ∧
      (r.commitFrom (.scripted fates) statements retries attempt sent).value
        = (r.hear url (fates (sent.length + k)), sent ++ List.replicate (k + 1)
            ⟨url, r.config.username, r.config.password, statements⟩) := by
  induction retries generalizing attempt sent with
  | zero =>
    refine ⟨0, le_rfl, fun i hi => absurd hi (Nat.not_lt_zero i),
      fun hlt => absurd hlt (lt_irrefl 0), ?_⟩
    rw [commitFrom, send_scripted hurl, Logged.value_pure]
    rfl
  | succ retries ih =>
    -- either the first request settles it, or the rest is a commit with one retry less
    have hsend := send_scripted hurl fates statements sent
    by_cases hfirst : IsTransient (r.hear url (fates sent.length))
    · -- the other attempts begin with this request among those that have been sent
      have hagain : IsTransient (r.send (.scripted fates) statements sent).1 := by
        rw [hsend]
        exact hfirst
      obtain ⟨k, hk, hbefore, hlast, hvalue⟩ := ih (attempt + 1)
        (sent ++ [⟨url, r.config.username, r.config.password, statements⟩])
      simp only [List.length_append, List.length_singleton] at hbefore hlast hvalue
      have hshift : ∀ i, sent.length + 1 + i = sent.length + (i + 1) := fun i => by omega
      simp only [hshift] at hbefore hlast hvalue
      refine ⟨k + 1, Nat.succ_le_succ hk, fun i hi => ?_, fun hlt => ?_, ?_⟩
      · cases i with
        | zero => exact hfirst
        | succ i => exact hbefore i (Nat.lt_of_succ_lt_succ hi)
      · exact hlast (Nat.lt_of_succ_lt_succ hlt)
      · rw [value_commitFrom_of_isTransient hagain, hsend, hvalue, List.append_assoc]
        rfl
    · have hend : ¬ IsTransient (r.send (.scripted fates) statements sent).1 := by
        rw [hsend]
        exact hfirst
      refine ⟨0, Nat.zero_le _, fun i hi => absurd hi (Nat.not_lt_zero i), fun _ => hfirst, ?_⟩
      rw [value_commitFrom_of_not_isTransient hend, hsend]
      rfl

/-- **A request that is settled**: if its outcome is the first that is no failure that may pass,
this outcome is told. -/
theorem value_commitFrom_of_settled (hurl : r.address = some url)
    (statements : List Statement) {retries k : Nat} (hk : k ≤ retries) {sent : List RemoteRequest}
    (htransient : ∀ i < k, IsTransient (r.hear url (fates (sent.length + i))))
    (hsettled : ¬ IsTransient (r.hear url (fates (sent.length + k)))) (attempt : Nat) :
    (r.commitFrom (.scripted fates) statements retries attempt sent).value
      = (r.hear url (fates (sent.length + k)), sent ++ List.replicate (k + 1)
          ⟨url, r.config.username, r.config.password, statements⟩) := by
  obtain ⟨n, hn, hbefore, hlast, hvalue⟩ :=
    commitFrom_scripted hurl fates statements retries attempt sent
  -- only one outcome is the first that is settled
  obtain rfl : n = k := by
    rcases lt_trichotomy n k with hlt | heq | hlt
    · exact absurd (htransient n hlt) (hlast (lt_of_lt_of_le hlt hk))
    · exact heq
    · exact absurd (hbefore k hlt) hsettled
  exact hvalue

end Scripted

/-! ## What is sent for each request to a database -/

section Operations

variable {τ : Type} (r : Remote) (transport : Transport τ) (s : τ)

/-- `Remote.counts` is one `commit` of the counting queries, with its results summed up. -/
theorem value_counts :
    (r.counts transport s).value
      = ((r.commit transport Statement.counts s).value.1.map DatabaseResponse.totals,
        (r.commit transport Statement.counts s).value.2) := by
  rw [counts, Logged.value_bind]
  obtain ⟨result, s⟩ := (r.commit transport Statement.counts s).value
  cases result <;> rfl

/-- `Remote.verify` leaves the connection as one `commit` of the probing query does. -/
theorem state_verify :
    (r.verify transport s).value.2 = (r.commit transport [Statement.probe] s).value.2 := by
  unfold verify
  rw [Logged.value_bind]
  obtain ⟨result, s⟩ := (r.commit transport [Statement.probe] s).value
  cases result with
  | ok results => rfl
  | error e => cases e <;> rfl

/-- Where something answers, the database can be reached. -/
theorem value_verify_of_ok {results : List StatementResult}
    (h : (r.commit transport [Statement.probe] s).value.1 = .ok results) :
    (r.verify transport s).value.1 = .ok () := by
  unfold verify
  rw [Logged.value_bind]
  cases hcommit : (r.commit transport [Statement.probe] s).value with
  | mk result s' =>
    rw [hcommit] at h
    cases h
    rfl

/-- Whatever goes wrong, what is told is that there is no connection. -/
theorem value_verify_of_error {e : GraphError}
    (h : (r.commit transport [Statement.probe] s).value.1 = .error e) :
    ∃ problem, (r.verify transport s).value.1 = .error (.connection problem) := by
  unfold verify
  rw [Logged.value_bind]
  cases hcommit : (r.commit transport [Statement.probe] s).value with
  | mk result s' =>
    rw [hcommit] at h
    cases h
    cases e <;> exact ⟨_, rfl⟩

end Operations

/-- **Requests are sent until their outcome is settled.** Let it be given what becomes of the
requests one after the other. If the first outcome that is not a failure that may pass is that of
the request with the number `k`, counted from zero, and `k` retries are allowed, then exactly
`k + 1` requests are sent and this outcome is told; otherwise all that may be sent are sent, and the
last failure is told. All of them carry the same statements. (To an address that cannot be used
nothing is sent.) Failures that may pass are those of requests that are lost, and of answers that
break off because they take too long; an answer that comes back whole is none, whatever its status
and text, and gives results or one of four errors.

To ask whether a database can be reached, to send a batch and to ask for the totals is to send
requests once in this way; and if the first of these fails, then for want of a connection. -/
theorem sent_until_settled (r : Remote) (statements : List Statement) (fates : Nat → Exchange)
    (sent : List RemoteRequest) :
    (∀ url, r.address = some url →
      let request : RemoteRequest := ⟨url, r.config.username, r.config.password, statements⟩
      let outcome := fun i => r.hear url (fates (sent.length + i))
      let result := (r.commit (.scripted fates) statements sent).value
      (∀ k ≤ r.config.maxRetries, (∀ i < k, IsTransient (outcome i)) → ¬ IsTransient (outcome k) →
        result = (outcome k, sent ++ List.replicate (k + 1) request)) ∧
      ((∀ i ≤ r.config.maxRetries, IsTransient (outcome i)) →
        result = (outcome r.config.maxRetries,
          sent ++ List.replicate (r.config.maxRetries + 1) request))) ∧
    (r.address = none →
      (r.commit (.scripted fates) statements sent).value
        = (.error addressError, sent)) ∧
    (∀ url exchange, IsTransient (r.hear url exchange) ↔
      (∃ cause, exchange = .lost cause) ∨
        ∃ status, 200 ≤ status ∧ status < 300 ∧ exchange = .cutOff status true) ∧
    (∀ url status body,
      (∃ results, r.hear url (.answered status body) = .ok results) ∨
      (∃ problem, r.hear url (.answered status body) = .error (.connection problem)) ∨
      (∃ problem, r.hear url (.answered status body) = .error (.write problem)) ∨
      (∃ code problem, r.hear url (.answered status body) = .error (.query code problem)) ∨
      r.hear url (.answered status body) = .error decodingError) ∧
    ∀ (τ : Type) (transport : Transport τ) (s : τ),
      ((r.verify transport s).value.2 = (r.commit transport [Statement.probe] s).value.2 ∧
        (∀ results, (r.commit transport [Statement.probe] s).value.1 = .ok results →
          (r.verify transport s).value.1 = .ok ()) ∧
        ∀ e, (r.commit transport [Statement.probe] s).value.1 = .error e →
          ∃ problem, (r.verify transport s).value.1 = .error (.connection problem)) ∧
      (∀ batch : Batch, (r.apply transport batch s).value
        = ((r.commit transport (batch.ops.toList.map .ofUpsert) s).value.1.map fun _ => (),
          (r.commit transport (batch.ops.toList.map .ofUpsert) s).value.2)) ∧
      (r.counts transport s).value
        = ((r.commit transport Statement.counts s).value.1.map DatabaseResponse.totals,
          (r.commit transport Statement.counts s).value.2) := by
  refine ⟨fun url hurl => ?_, fun hurl => commit_of_address_eq_none hurl _ _ _,
    isTransient_hear_iff r, fun _ => readAnswer_cases r.config,
    fun τ transport s => ⟨⟨state_verify r transport s, fun _ => value_verify_of_ok r transport s,
      fun _ => value_verify_of_error r transport s⟩, fun batch => value_apply r transport batch s,
      value_counts r transport s⟩⟩
  intro request outcome result
  refine ⟨fun k hk htransient hsettled =>
    value_commitFrom_of_settled hurl statements hk htransient hsettled 0, fun hall => ?_⟩
  obtain ⟨n, hn, -, hlast, hvalue⟩ :=
    commitFrom_scripted hurl fates statements r.config.maxRetries 0 sent
  -- a request before the last one would have settled it
  obtain rfl : n = r.config.maxRetries := by
    rcases lt_or_eq_of_le hn with hlt | heq
    · exact absurd (hall n hn) (hlast hlt)
    · exact heq
  exact hvalue

/-- A question that is lost, then answered too slowly, and then refused; one that is lost each time;
and the verdict on a database that refuses it. -/
theorem sent_until_settled_refused :
    let url := "http://localhost:7474/db/neo4j/tx/commit"
    let r : Remote := ⟨{}, url, some url⟩
    let request : RemoteRequest := ⟨url, "neo4j", "", [.probe]⟩
    let result (fates : List Exchange) :=
      (r.commit (.scripted (fates.getD · (.lost .noConnection))) [.probe] []).value
    let refused : List Exchange := [.lost .timedOut, .cutOff 200 true, .answered 503 "busy"]
    result refused
        = (.error (.write "Neo4j returned 503 Service Unavailable: busy"),
          [request, request, request]) ∧
      result [] = (.error (lossError url .noConnection), [request, request, request]) ∧
      ∃ problem, (r.verify (.scripted (refused.getD · (.lost .noConnection))) []).value.1
        = .error (.connection problem) := by
  intro url r request result refused
  have hurl : r.address = some url := rfl
  obtain ⟨hlaw, -, htransient, -, hoperations⟩ :=
    sent_until_settled r [.probe] (refused.getD · (.lost .noConnection)) []
  have hrefused : result refused
      = (.error (.write "Neo4j returned 503 Service Unavailable: busy"),
        [request, request, request]) := by
    refine ((hlaw url hurl).1 2 (by decide) (fun i hi => ?_) ?_).trans rfl
    · rw [htransient]
      obtain rfl | rfl : i = 0 ∨ i = 1 := by omega
      · exact .inl ⟨.timedOut, rfl⟩
      · exact .inr ⟨200, by decide, by decide, rfl⟩
    · rw [htransient]
      rintro (⟨cause, h⟩ | ⟨status, -, -, h⟩) <;> cases h
  refine ⟨hrefused, ?_, ?_⟩
  · obtain ⟨hlost, -, htransient', -⟩ :=
      sent_until_settled r [.probe] (([] : List Exchange).getD · (.lost .noConnection)) []
    exact ((hlost url hurl).2 fun i _ => (htransient' url _).2 (.inl ⟨_, rfl⟩)).trans rfl
  · exact (hoperations _ (.scripted (refused.getD · (.lost .noConnection))) []).1.2.2 _
      (congrArg Prod.fst hrefused)

end Remote

end CodeGraph
