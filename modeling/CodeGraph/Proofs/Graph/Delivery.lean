import CodeGraph.Proofs.Graph.Statements

/-! # A batch may be carried out more than once

A batch that is sent again may have been carried out before, when only the answer got lost. This
does no harm, since a batch that has been carried out changes nothing when it is carried out once
more (`PropertyGraph.mergeAll_mergeAll`), though it may name a file several times on the way. So
however often requests and answers get lost, a batch is carried out once or not at all
(`retries_apply_once`). -/

namespace CodeGraph

namespace PropertyGraph

variable {g h : PropertyGraph} {op : Upsert} {k : NodeKey} {i : Nat}

/-! ## What an upsert needs is there -/

/-- Whether the nodes of an upsert are there, and its link between the nodes that are found. -/
structure Covers (g : PropertyGraph) (op : Upsert) : Prop where
  nodes : ∀ k ∈ op.nodes, ∃ i, g.position? k = some i
  link : ∀ l, op.link? = some l → ∃ a b, g.position? l.source = some a ∧
    g.position? l.target = some b ∧ ⟨a, l.relation, b⟩ ∈ g.links

/-- What was found is still found after an upsert. -/
theorem position?_merge_of_some (h : g.position? k = some i) (op : Upsert) :
    (g.merge op).position? k = some i := by
  obtain ⟨path, name, rfl⟩ | ⟨l, hl, -⟩ := op.file_or_link
  · rw [merge, mergeFile_eq, position?_assign_name (position?_mergeNode_self g _)]
    exact position?_mergeNode_of_some h
  · rw [merge_of_link hl, mergeLink, position?_bindLink]
    exact position?_mergeNode_of_some (position?_mergeNode_of_some h)

/-- `PropertyGraph.merge` deletes no link. -/
theorem mem_links_merge {e : Edge} (h : e ∈ g.links) (op : Upsert) : e ∈ (g.merge op).links := by
  obtain ⟨path, name, rfl⟩ | ⟨l, hl, -⟩ := op.file_or_link
  · exact (links_mergeNode g (.file path)).symm ▸ h
  · rw [merge_of_link hl, mergeLink, mem_links_bindLink, links_mergeNode, links_mergeNode]
    exact .inl h

/-- What a graph `Covers` it still covers after any other upsert. -/
theorem Covers.merge (h : g.Covers op) (op' : Upsert) : (g.merge op').Covers op where
  nodes k hk := by
    obtain ⟨i, hi⟩ := h.nodes k hk
    exact ⟨i, position?_merge_of_some hi op'⟩
  link l hl := by
    obtain ⟨a, b, ha, hb, he⟩ := h.link l hl
    exact ⟨a, b, position?_merge_of_some ha op', position?_merge_of_some hb op',
      mem_links_merge he op'⟩

/-- After `merge op` the graph `Covers op`: its nodes are found, and its link is between them. -/
theorem covers_merge (g : PropertyGraph) (op : Upsert) : (g.merge op).Covers op := by
  obtain ⟨path, name, rfl⟩ | ⟨l, hl, hnodes⟩ := op.file_or_link
  · refine ⟨fun k hk => ?_, fun l hl => by cases hl⟩
    obtain rfl := List.mem_singleton.1 hk
    have hself := position?_mergeNode_self g (.file path)
    exact ⟨_, (position?_assign_name hself name _).trans hself⟩
  · have hsource :=
      position?_mergeNode_of_some (k := l.target) (position?_mergeNode_self g l.source)
    have htarget := position?_mergeNode_self (g.mergeNode l.source).2 l.target
    rw [merge_of_link hl, mergeLink]
    refine ⟨fun k hk => ?_, fun l' hl' => ?_⟩
    · rw [position?_bindLink]
      rw [hnodes, List.mem_pair] at hk
      rcases hk with rfl | rfl
      exacts [⟨_, hsource⟩, ⟨_, htarget⟩]
    · cases hl.symm.trans hl'
      simp only [position?_bindLink]
      exact ⟨_, _, hsource, htarget, mem_links_bindLink.2 (.inr rfl)⟩

/-- What a graph `Covers` it still covers after any list of upserts. -/
theorem Covers.mergeAll (h : g.Covers op) (ops : List Upsert) : (g.mergeAll ops).Covers op := by
  induction ops generalizing g with
  | nil => exact h
  | cons op' ops ih => exact ih (h.merge op')

/-- After upserts all that they need is there. -/
theorem covers_mergeAll (g : PropertyGraph) {ops : List Upsert} (hop : op ∈ ops) :
    (g.mergeAll ops).Covers op := by
  induction ops generalizing g with
  | nil => cases hop
  | cons op' ops ih =>
    rcases List.mem_cons.1 hop with rfl | hop
    · exact (covers_merge g op).mergeAll ops
    · exact ih (g.merge op') hop

/-! ## Nothing but names -/

/-- Two graphs that differ in nothing but names of files that are found by their paths. -/
structure OnlyNames (g h : PropertyGraph) : Prop where
  keys : h.keys = g.keys
  links : h.links = g.links
  nodes : ∀ i, h.nodes[i]? = g.nodes[i]? ∨ ∃ path n name, g.position? (.file path) = some i ∧
    g.nodes[i]? = some n ∧ h.nodes[i]? = some (n.set "name" name)

namespace OnlyNames

/-- A graph differs from itself in no names at all. -/
theorem refl (g : PropertyGraph) : OnlyNames g g := ⟨rfl, rfl, fun _ => .inl rfl⟩

/-- Graphs that differ in names alone find the same keys at the same positions. -/
theorem position? (hgh : OnlyNames g h) (k : NodeKey) : h.position? k = g.position? k := by
  rw [PropertyGraph.position?, hgh.keys, ← PropertyGraph.position?]

/-- Graphs that differ in names alone cover the same upserts. -/
theorem covers (hgh : OnlyNames g h) (hop : g.Covers op) : h.Covers op where
  nodes := by simpa only [hgh.position?] using hop.nodes
  link := by simpa only [hgh.position?, hgh.links] using hop.link

/-- Of two names the later one stays. -/
theorem trans {h' : PropertyGraph} (hgh : OnlyNames g h) (hh : OnlyNames h h') :
    OnlyNames g h' where
  keys := hh.keys.trans hgh.keys
  links := hh.links.trans hgh.links
  nodes i := by
    rcases hh.nodes i with hsame | ⟨path, n, name, hi, hn, hn'⟩
    · rw [hsame]
      exact hgh.nodes i
    · rw [hgh.position?] at hi
      rcases hgh.nodes i with hsame | ⟨path', m, name', hi', hm, hm'⟩
      · exact .inr ⟨path, n, name, hi, hsame ▸ hn, hn'⟩
      · cases hm'.symm.trans hn
        exact .inr ⟨path, m, name, hi, hm, by rw [hn', PropertyNode.set_set]⟩

/-- If the names are the same as well, nothing differs. -/
theorem eq_of_fileName? (hgh : OnlyNames g h)
    (hnames : ∀ path, h.fileName? path = g.fileName? path) : h = g := by
  have hnodes : h.nodes = g.nodes := List.ext_getElem? fun i => by
    rcases hgh.nodes i with hsame | ⟨path, n, name, hi, hn, hn'⟩
    · exact hsame
    · have hname := hnames path
      rw [fileName?, fileName?, hgh.position?, hi, Option.bind_some, Option.bind_some, hn, hn',
        Option.bind_some, Option.bind_some, PropertyNode.set] at hname
      rw [hn, hn', PropertyNode.set_self (by simpa using hname.symm)]
  obtain ⟨nodes, links⟩ := g
  obtain ⟨nodes', links'⟩ := h
  cases hnodes
  cases hgh.links
  rfl

end OnlyNames

/-- An upsert whose nodes and link are there gives at most a name. -/
theorem onlyNames_merge (h : g.Covers op) : OnlyNames g (g.merge op) := by
  obtain ⟨path, name, rfl⟩ | ⟨l, hl, -⟩ := op.file_or_link
  · obtain ⟨i, hi⟩ := h.nodes (.file path) (List.mem_singleton_self _)
    rw [merge, mergeFile_eq, mergeNode_of_some hi]
    refine ⟨keys_assign_name hi name, rfl, fun j => ?_⟩
    by_cases hij : i = j
    · subst hij
      have hn := List.getElem?_eq_getElem (lt_of_position? hi)
      exact .inr ⟨path, _, name, hi, hn, by simp [assign, hn]⟩
    · exact .inl (List.getElem?_modify_ne _ _ hij)
  · obtain ⟨a, b, ha, hb, he⟩ := h.link l hl
    rw [merge_of_link hl, mergeLink, mergeNode_of_some ha]
    simp only [mergeNode_of_some hb, bindLink, if_pos he]
    exact .refl g

/-- Upserts that are covered change nothing but names, by induction with `Covers.merge` at each
step. -/
theorem onlyNames_mergeAll {ops : List Upsert} (h : ∀ op ∈ ops, g.Covers op) :
    OnlyNames g (g.mergeAll ops) := by
  induction ops generalizing g with
  | nil => exact .refl g
  | cons op ops ih =>
    have hop := onlyNames_merge (h op (List.mem_cons_self ..))
    exact hop.trans (ih fun op' hop' => hop.covers (h op' (List.mem_cons_of_mem op hop')))

/-- After `mergeAll` a file has the last name the upserts give it, or the one the graph had for
it. -/
theorem fileName?_mergeAll (g : PropertyGraph) (ops : List Upsert) (path : String) :
    (g.mergeAll ops).fileName? path = (Upsert.lastName? path ops).or (g.fileName? path) := by
  induction ops generalizing g with
  | nil => rfl
  | cons op ops ih =>
    refine (ih (g.merge op)).trans ?_
    rw [fileName?_merge, Upsert.lastName?, Option.or_assoc]

/-- **Upserts that have been made change nothing when they are made once more.** -/
theorem mergeAll_mergeAll (g : PropertyGraph) (ops : List Upsert) :
    (g.mergeAll ops).mergeAll ops = g.mergeAll ops := by
  refine (onlyNames_mergeAll fun op hop => covers_mergeAll g hop).eq_of_fileName? fun path => ?_
  rw [fileName?_mergeAll, fileName?_mergeAll, ← Option.or_assoc, Option.or_self]

end PropertyGraph

/-! ## Requests that are sent again -/

variable {r : Remote} {fate : Nat → Fate} {cause : Nat → Loss}
  {reply : RemoteRequest → Server → Nat × String}
  {statements : List Statement} {url : String}

/-- **One request**: it is carried out unless it gets lost. -/
theorem Server.graph_after (server : Server) (fate : Nat → Fate) (statements : List Statement) :
    (server.after fate statements).graph
      = if fate server.sent = .lost then server.graph else server.graph.transact statements := by
  rw [after]
  cases fate server.sent <;> rfl

/-- **All requests**: if to carry them out twice is to carry them out once, they are carried out
once unless every request gets lost. -/
theorem Server.graph_afterMany
    (hagain : ∀ g : PropertyGraph,
      (g.transact statements).transact statements = g.transact statements)
    (server : Server) (n : Nat) :
    (server.afterMany fate statements n).graph
      = if ∀ i < n, fate (server.sent + i) = .lost then server.graph
        else server.graph.transact statements := by
  induction n generalizing server with
  | zero => simp [afterMany]
  | succ n ih =>
    have hsplit : (∀ i < n + 1, fate (server.sent + i) = .lost)
        ↔ fate server.sent = .lost ∧ ∀ i < n, fate (server.sent + 1 + i) = .lost := by
      rw [Nat.forall_lt_succ_left]
      simp only [Nat.add_zero, Nat.add_assoc, Nat.add_comm 1]
    rw [afterMany, ih, sent_after, graph_after]
    simp only [hsplit]
    by_cases hfirst : fate server.sent = .lost
    · simp only [hfirst, if_true, true_and]
    · -- carried out now, so whatever becomes of the other requests changes nothing
      simp only [hfirst, if_false, false_and, hagain, ite_self]

/-- A batch that has been carried out changes nothing when it is carried out once more. -/
theorem PropertyGraph.transact_transact_ofUpsert (ops : List Upsert) (g : PropertyGraph) :
    (g.transact (ops.map Statement.ofUpsert)).transact (ops.map Statement.ofUpsert)
      = g.transact (ops.map Statement.ofUpsert) := by
  simp only [transact_ofUpsert, mergeAll_mergeAll]

/-- If the last of some requests is answered, they are not all lost. -/
theorem not_all_lost {n m : Nat} (h : fate (m + n) = .answered) :
    ¬ ∀ i < n + 1, fate (m + i) = .lost := fun hlost => by
  cases h.symm.trans (hlost n (Nat.lt_succ_self n))

/-- **What becomes of a batch** that is sent until it is answered. If the request with a number is
the first that is answered, it is the last that is sent; the batch has been carried out, and the
sender hears the answer. If none is answered, all that may be sent are sent; the batch has been
carried out unless all of them got lost, and the sender hears that something went wrong. -/
theorem Remote.apply_serving (fate : Nat → Fate) (cause : Nat → Loss)
    (reply : RemoteRequest → Server → Nat × String)
    (hurl : r.address = some url) (batch : Batch) (server : Server) :
    (∃ n ≤ r.config.maxRetries, fate (server.sent + n) = .answered ∧
      (∀ i < n, fate (server.sent + i) ≠ .answered) ∧ ∃ request before,
        (r.apply (.serving fate cause reply) batch server).value
          = ((readAnswer r.config (reply request before).1 (reply request before).2).map
              fun _ => (),
            ⟨server.graph.mergeAll batch.ops.toList, server.sent + (n + 1)⟩)) ∨
    (∀ i < r.config.maxRetries + 1, fate (server.sent + i) ≠ .answered) ∧
      (r.apply (.serving fate cause reply) batch server).value
        = (.error (lossError url (cause (server.sent + r.config.maxRetries))),
          ⟨if ∀ i < r.config.maxRetries + 1, fate (server.sent + i) = .lost then server.graph
            else server.graph.mergeAll batch.ops.toList,
            server.sent + (r.config.maxRetries + 1)⟩) := by
  let sent := batch.ops.toList.map Statement.ofUpsert
  obtain ⟨n, hn, hbefore, hlast, hcommit⟩ :=
    commitFrom_serving fate cause reply sent hurl r.config.maxRetries 0 server
  have hsent : (server.afterMany fate sent n).sent = server.sent + n :=
    Server.sent_afterMany server fate sent n
  -- carrying the batch out more often has the effect of carrying it out once
  have hvalue : (r.apply (.serving fate cause reply) batch server).value
      = ((r.heard fate cause reply url sent (server.afterMany fate sent n)).map fun _ => (),
        ⟨if ∀ i < n + 1, fate (server.sent + i) = .lost then server.graph
          else server.graph.mergeAll batch.ops.toList, server.sent + (n + 1)⟩) := by
    rw [value_apply, commit, hcommit, ← PropertyGraph.transact_ofUpsert,
      ← Server.graph_afterMany (PropertyGraph.transact_transact_ofUpsert _),
      ← Server.sent_afterMany server fate sent]
  by_cases hanswered : fate (server.sent + n) = .answered
  · obtain ⟨request, hheard⟩ := heard_of_answered r cause reply url sent (hsent ▸ hanswered)
    refine .inl ⟨n, hn, hanswered, hbefore, request, server.afterMany fate sent n, ?_⟩
    rw [hvalue, hheard, if_neg (not_all_lost hanswered)]
  · -- the last request was not answered, so it was the last that may be sent
    obtain rfl : n = r.config.maxRetries := hn.antisymm (not_lt.1 fun hlt => hanswered (hlast hlt))
    refine .inr ⟨fun i hi => ?_, ?_⟩
    · rcases Nat.lt_succ_iff_lt_or_eq.1 hi with hlt | rfl
      · exact hbefore i hlt
      · exact hanswered
    · rw [hvalue, heard_of_not_answered (hsent ▸ hanswered), hsent]
      rfl

/-- **Retries are safe.** A batch is sent to a database that carries out each request that reaches
it as a whole; each request can be answered, or carried out with the answer lost, or lost. If the
sender is told that the batch has been taken, the graph is the one with the batch carried out once.
If the sender is told of an error, it is that graph or the one before, and if no request was
answered, it is the one before exactly if no request arrived. In memory the batch has the same
effect. -/
theorem retries_apply_once (r : Remote) (fate : Nat → Fate) (cause : Nat → Loss)
    (reply : RemoteRequest → Server → Nat × String) (batch : Batch) (server : Server) :
    ∃ once, Statement.runAll (batch.ops.toList.map .ofUpsert) server.graph = some once ∧
      (∀ s : Store, s.Consistent → server.graph = s.toGraph → once = (s.apply batch).toGraph) ∧
      let answer := (r.apply (.serving fate cause reply) batch server).value
      (answer.1 = .ok () → answer.2.graph = once) ∧
      (∀ e, answer.1 = .error e → answer.2.graph = server.graph ∨ answer.2.graph = once) ∧
      (r.address.isSome →
        (∀ n ≤ r.config.maxRetries, fate (server.sent + n) = .answered →
          (∀ i < n, fate (server.sent + i) ≠ .answered) →
          answer.2 = ⟨once, server.sent + (n + 1)⟩ ∧ ∃ request before, answer.1
            = (Remote.readAnswer r.config (reply request before).1 (reply request before).2).map
              fun _ => ()) ∧
        ((∀ i < r.config.maxRetries + 1, fate (server.sent + i) ≠ .answered) →
          (∃ e, e.isTransient ∧ answer.1 = .error e) ∧
          answer.2 = ⟨if ∀ i < r.config.maxRetries + 1, fate (server.sent + i) = .lost
            then server.graph else once, server.sent + (r.config.maxRetries + 1)⟩)) := by
  refine ⟨server.graph.mergeAll batch.ops.toList, Statement.runAll_ofUpsert _ _,
    fun s hs h => ?_, ?_⟩
  · rw [h, Store.toGraph_mergeAll hs, Store.toGraph_apply]
  intro answer
  cases hurl : r.address with
  | none =>
    have hanswer : answer = (.error Remote.addressError, server) := by
      simp only [answer, Remote.value_apply, Remote.commit_of_address_eq_none hurl]
      rfl
    simp [hanswer]
  | some url =>
    rcases Remote.apply_serving fate cause reply hurl batch server with
      ⟨n, hn, hanswered, hbefore, request, before, hvalue⟩ | ⟨hnone, hvalue⟩
    · have hanswer : answer = _ := hvalue
      refine ⟨fun _ => by rw [hanswer], fun e _ => .inr (by rw [hanswer]),
        fun _ => ⟨fun m hm hm' hfirst => ?_, fun hnone => ?_⟩⟩
      · -- only one request is the first that is answered
        obtain rfl : n = m := by
          rcases lt_trichotomy n m with hlt | heq | hlt
          · exact absurd hanswered (hfirst n hlt)
          · exact heq
          · exact absurd hm' (hbefore m hlt)
        rw [hanswer]
        exact ⟨rfl, request, before, rfl⟩
      · exact absurd hanswered (hnone n (Nat.lt_succ_of_le hn))
    · have hanswer : answer = _ := hvalue
      refine ⟨fun hok => ?_, fun e _ => ?_,
        fun _ => ⟨fun m hm hm' _ => absurd hm' (hnone m (Nat.lt_succ_of_le hm)), fun _ => ?_⟩⟩
      · rw [hanswer] at hok
        cases hok
      · rw [hanswer]
        split
        · exact .inl rfl
        · exact .inr rfl
      · rw [hanswer]
        exact ⟨⟨_, Remote.isTransient_lossError _ _, rfl⟩, rfl⟩

/-- A batch that names a file twice, sent three times: answered at last after it was carried out
already; never answered, and carried out; and lost each time. -/
theorem retries_apply_once_two_names :
    let url := "http://localhost:7474/db/neo4j/tx/commit"
    let r : Remote := ⟨{}, url, some url⟩
    let cause : Nat → Loss := fun _ => .timedOut
    let reply : RemoteRequest → Server → Nat × String :=
      fun _ _ => (200, "\x7b\"results\":[],\"errors\":[]\x7d")
    let batch := (Batch.empty "a.py").pushAll [.file "a.py" "a", .file "a.py" "b"]
    let result (fates : List Fate) :=
      (r.apply (.serving (fates.getD · .lost) cause reply) batch ⟨Store.empty.toGraph, 0⟩).value
    result [.unanswered, .lost, .answered] = (.ok (), ⟨(Store.empty.apply batch).toGraph, 3⟩) ∧
      (∃ e, e.isTransient ∧
        result [.lost, .unanswered] = (.error e, ⟨(Store.empty.apply batch).toGraph, 3⟩)) ∧
      ∃ e, e.isTransient ∧ result [] = (.error e, ⟨Store.empty.toGraph, 3⟩) := by
  intro url r cause reply batch result
  have hurl : r.address.isSome := rfl
  refine ⟨?_, ?_, ?_⟩
  · obtain ⟨once, -, honce, -, -, hall⟩ := retries_apply_once r
      ([.unanswered, .lost, .answered].getD · .lost) cause reply batch ⟨Store.empty.toGraph, 0⟩
    obtain ⟨hserver, request, before, hresult⟩ :=
      (hall hurl).1 2 (by decide) (by decide) (by decide)
    rw [honce _ Store.consistent_empty rfl] at hserver
    have hread : Remote.readAnswer r.config 200 "\x7b\"results\":[],\"errors\":[]\x7d" = .ok [] :=
      rfl
    exact Prod.ext (hresult.trans (congrArg _ hread)) hserver
  · obtain ⟨once, -, honce, -, -, hall⟩ := retries_apply_once r
      ([.lost, .unanswered].getD · .lost) cause reply batch ⟨Store.empty.toGraph, 0⟩
    obtain ⟨⟨e, he, hresult⟩, hserver⟩ := (hall hurl).2 (by decide)
    rw [honce _ Store.consistent_empty rfl, if_neg (by decide)] at hserver
    exact ⟨e, he, Prod.ext hresult hserver⟩
  · obtain ⟨once, -, honce, -, -, hall⟩ := retries_apply_once r
      (([] : List Fate).getD · .lost) cause reply batch ⟨Store.empty.toGraph, 0⟩
    obtain ⟨⟨e, he, hresult⟩, hserver⟩ := (hall hurl).2 (by decide)
    rw [if_pos (by decide)] at hserver
    exact ⟨e, he, Prod.ext hresult hserver⟩

end CodeGraph
