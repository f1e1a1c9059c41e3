import CodeGraph.Graph.Remote
import CodeGraph.Proofs.Graph.PropertyGraph

/-! # A database at the other end

A database that is reached through an unreliable network. It carries out the statements of a request
one after the other, and all or none of them. A request can get lost on its way there, and its
answer on the way back; to the sender these look the same. `commitFrom_serving` says what becomes of
a request that is sent until it is answered: how often it is sent, what the sender hears, and what
the database is left with. -/

namespace CodeGraph

/-- What happens to a request. -/
inductive Fate where
  /-- It is carried out, and the answer comes back. -/
  | answered
  /-- It is carried out, but the answer gets lost. -/
  | unanswered
  /-- It gets lost. -/
  | lost
  deriving DecidableEq

/-- A database. -/
structure Server where
  graph : PropertyGraph
  /-- Number of requests that have been sent to it. -/
  sent : Nat := 0

/-- The graph after a transaction. A transaction that fails changes nothing. -/
def PropertyGraph.transact (g : PropertyGraph) (statements : List Statement) : PropertyGraph :=
  (Statement.runAll statements g).getD g

/-- A transaction of the statements of some upserts carries these upserts out. -/
theorem PropertyGraph.transact_ofUpsert (g : PropertyGraph) (ops : List Upsert) :
    g.transact (ops.map Statement.ofUpsert) = g.mergeAll ops := by
  rw [transact, Statement.runAll_ofUpsert, Option.getD_some]

/-- A network that does with each request what `fate` says, with a database that answers as `reply`
says. Where no answer comes back, `cause` says what the sender notices. -/
def Transport.serving (fate : Nat → Fate) (cause : Nat → Loss)
    (reply : RemoteRequest → Server → Nat × String) : Transport Server := fun request server =>
  let graph := server.graph.transact request.statements
  let sent := server.sent + 1
  match fate server.sent with
  | .answered =>
    let (status, body) := reply request server
    (.answered status body, { graph, sent })
  | .unanswered => (.lost (cause server.sent), { graph, sent })
  | .lost => (.lost (cause server.sent), { server with sent })

namespace Server

/-- The database after a request. -/
def after (server : Server) (fate : Nat → Fate) (statements : List Statement) : Server :=
  match fate server.sent with
  | .lost => { server with sent := server.sent + 1 }
  | _ => ⟨server.graph.transact statements, server.sent + 1⟩

/-- The database after a request has been sent a number of times. -/
def afterMany (server : Server) (fate : Nat → Fate) (statements : List Statement) : Nat → Server
  | 0 => server
  | n + 1 => (server.after fate statements).afterMany fate statements n

/-- `Server.after` counts one more request as sent, whatever became of it. -/
@[simp] theorem sent_after (server : Server) (fate : Nat → Fate) (statements : List Statement) :
    (server.after fate statements).sent = server.sent + 1 := by
  rw [after]
  cases fate server.sent <;> rfl

/-- `Server.afterMany` counts as many more requests as were sent, by induction on their number. -/
theorem sent_afterMany (server : Server) (fate : Nat → Fate) (statements : List Statement)
    (n : Nat) : (server.afterMany fate statements n).sent = server.sent + n := by
  induction n generalizing server with
  | zero => rfl
  | succ n ih => rw [afterMany, ih, sent_after, Nat.add_right_comm, Nat.add_assoc]

end Server

namespace Remote

variable {r : Remote} {fate : Nat → Fate} {cause : Nat → Loss}
  {reply : RemoteRequest → Server → Nat × String} {url : String} {statements : List Statement}
  {server : Server}

/-- A request that gets no answer may be sent again, whatever the cause. -/
@[simp] theorem isTransient_lossError (url : String) (cause : Loss) :
    (lossError url cause).isTransient = true := by
  cases cause <;> rfl

/-- A request that has no web address is not sent again. -/
@[simp] theorem not_isTransient_addressError : addressError.isTransient = false := rfl

/-- An answer, whatever it says, is no reason to try again. -/
theorem not_isTransient_of_readAnswer {c : RemoteConfig} {status : Nat} {body : String}
    {e : GraphError} (h : readAnswer c status body = .error e) : e.isTransient = false := by
  rw [readAnswer] at h
  split at h
  · cases h
    rfl
  split at h
  · cases h
    rfl
  cases hparse : DatabaseResponse.parse? body with
  | none =>
    rw [hparse] at h
    cases h
    rfl
  | some response =>
    rw [hparse] at h
    cases herrors : response.errors with
    | nil => simp [herrors] at h
    | cons problem problems =>
      simp only [herrors] at h
      cases h
      rfl

/-- What the sender hears of a request. -/
def heard (r : Remote) (fate : Nat → Fate) (cause : Nat → Loss)
    (reply : RemoteRequest → Server → Nat × String) (url : String) (statements : List Statement)
    (server : Server) :
    Except GraphError (List StatementResult) :=
  match fate server.sent with
  | .answered =>
    let (status, body) := reply ⟨url, r.config.username, r.config.password, statements⟩ server
    readAnswer r.config status body
  | _ => .error (lossError url (cause server.sent))

/-- If the request is answered, what is heard is the reply to it as `readAnswer` reads it. -/
theorem heard_of_answered (r : Remote) (cause : Nat → Loss)
    (reply : RemoteRequest → Server → Nat × String)
    (url : String) (statements : List Statement) (h : fate server.sent = .answered) :
    ∃ request, r.heard fate cause reply url statements server
      = readAnswer r.config (reply request server).1 (reply request server).2 := by
  rw [heard, h]
  exact ⟨_, rfl⟩

/-- If the request is not answered, what is heard is the loss, with its cause. -/
theorem heard_of_not_answered (h : fate server.sent ≠ .answered) :
    r.heard fate cause reply url statements server
      = .error (lossError url (cause server.sent)) := by
  rw [heard]
  cases hfate : fate server.sent with
  | answered => exact absurd hfate h
  | _ => rfl

/-- One `send` to a server: what is heard of the request, and the server as the request left it. -/
theorem send_serving (hurl : r.address = some url) :
    r.send (.serving fate cause reply) statements server
      = (r.heard fate cause reply url statements server, server.after fate statements) := by
  simp only [send, hurl, Transport.serving, heard, Server.after]
  cases fate server.sent <;> rfl

/-- **One attempt**: an answer ends the attempts. -/
theorem commitFrom_of_answered (hurl : r.address = some url)
    (h : fate server.sent = .answered) (retries attempt : Nat) :
    (r.commitFrom (.serving fate cause reply) statements retries attempt server).value
      = (r.heard fate cause reply url statements server, server.after fate statements) := by
  cases retries with
  | zero => rw [commitFrom, send_serving hurl, Logged.value_pure]
  | succ retries =>
    rw [commitFrom, send_serving hurl]
    cases hheard : r.heard fate cause reply url statements server with
    | ok results => rfl
    | error e =>
      rw [heard, h] at hheard
      simp [not_isTransient_of_readAnswer hheard]

/-- **One attempt**: a request that is not answered is sent again if retries are left. -/
theorem commitFrom_succ_of_not_answered (hurl : r.address = some url)
    (h : fate server.sent ≠ .answered) (retries attempt : Nat) :
    (r.commitFrom (.serving fate cause reply) statements (retries + 1) attempt server).value
      = (r.commitFrom (.serving fate cause reply) statements retries (attempt + 1)
          (server.after fate statements)).value := by
  rw [commitFrom, send_serving hurl, heard_of_not_answered h]
  simp only [isTransient_lossError, if_true, Logged.value_bind]

/-- **All attempts**: a request is sent until it is answered or no retries are left. -/
theorem commitFrom_serving (fate : Nat → Fate) (cause : Nat → Loss)
    (reply : RemoteRequest → Server → Nat × String) (statements : List Statement)
    (hurl : r.address = some url)
    (retries attempt : Nat) (server : Server) :
    ∃ n ≤ retries, (∀ i < n, fate (server.sent + i) ≠ .answered) ∧
      (n < retries → fate (server.sent + n) = .answered) ∧
      (r.commitFrom (.serving fate cause reply) statements retries attempt server).value
        = (r.heard fate cause reply url statements (server.afterMany fate statements n),
          server.afterMany fate statements (n + 1)) := by
  induction retries generalizing attempt server with
  | zero =>
    refine ⟨0, le_rfl, fun i hi => absurd hi (Nat.not_lt_zero i),
      fun hlt => absurd hlt (lt_irrefl 0), ?_⟩
    rw [commitFrom, send_serving hurl, Logged.value_pure]
    rfl
  | succ retries ih =>
    by_cases hfate : fate server.sent = .answered
    · refine ⟨0, Nat.zero_le _, fun i hi => absurd hi (Nat.not_lt_zero i), fun _ => hfate, ?_⟩
      rw [commitFrom_of_answered hurl hfate]
      rfl
    · -- the other attempts begin with the database that this one leaves
      obtain ⟨n, hn, hbefore, hlast, hvalue⟩ := ih (attempt + 1) (server.after fate statements)
      rw [Server.sent_after] at hbefore hlast
      refine ⟨n + 1, Nat.succ_le_succ hn, fun i hi => ?_, fun hlt => ?_, ?_⟩
      · cases i with
        | zero => exact hfate
        | succ i => exact Nat.add_right_comm _ i 1 ▸ hbefore i (Nat.lt_of_succ_lt_succ hi)
      · exact Nat.add_right_comm _ n 1 ▸ hlast (Nat.lt_of_succ_lt_succ hlt)
      · rw [commitFrom_succ_of_not_answered hurl hfate, hvalue]
        rfl

/-- Nothing is sent where there is no web address. -/
theorem commit_of_address_eq_none {τ : Type} (hurl : r.address = none)
    (transport : Transport τ) (statements : List Statement) (s : τ) :
    (r.commit transport statements s).value = (.error addressError, s) := by
  rw [commit]
  cases r.config.maxRetries <;> simp [commitFrom, send, hurl]

/-- A batch is sent as the statements of its upserts. -/
theorem value_apply {τ : Type} (r : Remote) (transport : Transport τ) (batch : Batch) (s : τ) :
    (r.apply transport batch s).value
      = ((r.commit transport (batch.ops.toList.map .ofUpsert) s).value.1.map fun _ => (),
        (r.commit transport (batch.ops.toList.map .ofUpsert) s).value.2) := by
  rw [apply, Logged.value_bind]
  obtain ⟨result, s⟩ := (r.commit transport (batch.ops.toList.map .ofUpsert) s).value
  cases result <;> rfl

/-- Sends batches one after the other. -/
def applyAll {τ : Type} (r : Remote) (transport : Transport τ) (batches : List Batch) (s : τ) : τ :=
  batches.foldl (fun s batch => (r.apply transport batch s).value.2) s

/-- Where every request is answered, each batch is carried out once. -/
theorem applyAll_answered (hurl : r.address = some url) (batches : List Batch)
    (g : PropertyGraph) (n : Nat) :
    r.applyAll (.serving (fun _ => .answered) cause reply) batches ⟨g, n⟩
      = ⟨batches.foldl (fun g batch => g.mergeAll batch.ops.toList) g, n + batches.length⟩ := by
  induction batches generalizing g n with
  | nil => rfl
  | cons batch batches ih =>
    have hone : (r.apply (.serving (fun _ => .answered) cause reply) batch ⟨g, n⟩).value.2
        = ⟨g.mergeAll batch.ops.toList, n + 1⟩ := by
      rw [value_apply, commit, commitFrom_of_answered hurl rfl, ← PropertyGraph.transact_ofUpsert]
      rfl
    rw [applyAll, List.foldl_cons, hone, ← applyAll, ih, List.foldl_cons, List.length_cons,
      Nat.add_assoc, Nat.add_comm 1]

end Remote

end CodeGraph
