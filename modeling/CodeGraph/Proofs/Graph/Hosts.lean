import CodeGraph.Graph.Remote
import CodeGraph.Graph.Url
import CodeGraph.Proofs.Text.Splitting
import CodeGraph.Proofs.Text.Trimming

/-! # Hosts of databases

An address in a scheme of the database's own protocol leads to a base URL on the host that stands in
its authority. A host is told from a port at the last colon, and only digits count as a port; so the
host in the base URL is the one that the authority names (`Address.Names`), wherever it names one,
and no host at all where it names none (`Address.names_iff`). An address is refused only if its
authority is empty (`Address.baseUrl_of_no_authority`). One that is nothing but a port is not, and
what it leads to is no URL (`Address.port_taken_for_host`). -/

namespace CodeGraph

namespace Address

/-! ## Hosts in an authority -/

/-- Whether a character may stand in a name: any that is neither white space nor a mark between the
parts of an address. -/
def isNameChar (c : Char) : Bool :=
  !Text.isBlank c && !([':', '/', '?', '#', '[', ']', '@'].contains c)

/-- **Hosts**: names, and numbers between brackets, in which colons may stand. -/
inductive IsHost : String → Prop where
  | name {name : String} (hne : name ≠ "") (h : ∀ c ∈ name.toList, isNameChar c) : IsHost name
  | literal {number : String} (hne : number ≠ "")
      (h : ∀ c ∈ number.toList, c = ':' ∨ isNameChar c) : IsHost ("[" ++ number ++ "]")

/-- **Endpoints**: hosts, with or without the user who asks, and without port, query or fragment. -/
inductive IsEndpoint : String → Prop where
  | host {host : String} (h : IsHost host) : IsEndpoint host
  | userHost {user host : String} (huser : ∀ c ∈ user.toList, c = ':' ∨ isNameChar c)
      (h : IsHost host) : IsEndpoint (user ++ "@" ++ host)

/-- Whether a text is a port: digits, or nothing. -/
def IsPort (port : String) : Prop := ∀ c ∈ port.toList, c.isDigit

/-- **An authority names an endpoint**: it is one, or one with a port after a colon. -/
def Names (authority endpoint : String) : Prop :=
  IsEndpoint endpoint ∧
    (authority = endpoint ∨ ∃ port, IsPort port ∧ authority = endpoint ++ ":" ++ port)

/-- What ends in a bracket does not end in a port. -/
theorem bracketed_not_port {inner : String} {start port : List Char}
    (heq : ("[" ++ inner ++ "]").toList = start ++ ':' :: port) :
    ∃ c ∈ port, c.isDigit = false := by
  have hlast : (start ++ ':' :: port).getLast? = some ']' := by
    rw [← heq, String.toList_append]
    exact List.getLast?_concat
  -- the last character is a bracket, so there is something after the colon
  rcases List.eq_nil_or_concat port with rfl | ⟨port, c, rfl⟩
  · rw [List.getLast?_concat] at hlast
    cases hlast
  · rw [List.concat_eq_append, ← List.cons_append, ← List.append_assoc,
      List.getLast?_concat] at hlast
    cases hlast
    exact ⟨']', by simp, rfl⟩

/-- A host does not end in a port. -/
theorem IsHost.not_port {host : String} (h : IsHost host) {start port : List Char}
    (heq : host.toList = start ++ ':' :: port) : ∃ c ∈ port, c.isDigit = false := by
  cases h with
  | name _ h =>
    have hcolon : isNameChar ':' := h ':' (by rw [heq]; simp)
    cases hcolon
  | literal => exact bracketed_not_port heq

/-- An endpoint does not end in a port. -/
theorem IsEndpoint.not_port {endpoint : String} (h : IsEndpoint endpoint) {start port : List Char}
    (heq : endpoint.toList = start ++ ':' :: port) : ∃ c ∈ port, c.isDigit = false := by
  cases h with
  | host h => exact h.not_port heq
  | @userHost user host _ h =>
    rw [String.toList_append, String.toList_append, List.append_assoc] at heq
    -- the colon stands in the host, or before the sign that follows the user
    rcases List.append_eq_append_iff.1 heq with ⟨before, -, hhost⟩ | ⟨after, -, hport⟩
    · cases before with
      | nil => cases hhost
      | cons d before => exact h.not_port (List.cons.inj hhost).2
    · cases after with
      | nil => cases hport
      | cons d after =>
        rw [(List.cons.inj hport).2]
        exact ⟨'@', by simp, rfl⟩

/-- No endpoint is the empty text. -/
theorem IsEndpoint.ne_empty {endpoint : String} (h : IsEndpoint endpoint) : endpoint ≠ "" := by
  cases h with
  | host h =>
    cases h with
    | name hne => exact hne
    | literal => simp
  | userHost => simp

/-- A host is cut out by leaving out a port, if anything. -/
theorem host_cases (authority : String) :
    host authority = authority ∨
      host authority ≠ "" ∧ ∃ port, IsPort port ∧ authority = host authority ++ ":" ++ port := by
  rw [host]
  split
  · next start port hsplit =>
    split
    · next hport =>
      rw [Bool.and_eq_true, List.all_eq_true] at hport
      refine .inr ⟨by simpa using hport.1, port, hport.2, ?_⟩
      rw [← String.toList_inj, (Text.of_splitLast? hsplit).1]
      simp
    · exact .inl rfl
  · exact .inl rfl

/-- `splitLast?` at a colon cuts an `IsPort` text off, since there is no colon among digits. -/
theorem IsPort.splitLast?_append {port : String} (h : IsPort port) (start : String) :
    Text.splitLast? ':' (start ++ ":" ++ port) = some (start, port) :=
  Text.splitLast?_append (fun hmem => absurd (h ':' hmem) (by decide)) start

/-- `Address.host` cuts a port off whatever nonempty text stands before it. -/
theorem host_append_port {start port : String} (hne : start ≠ "") (hport : IsPort port) :
    host (start ++ ":" ++ port) = start := by
  have hdigits : (!start.isEmpty && port.toList.all Char.isDigit) = true := by
    rw [Bool.and_eq_true, List.all_eq_true]
    exact ⟨by simpa using hne, hport⟩
  rw [host, hport.splitLast?_append]
  exact if_pos hdigits

/-- A port with nothing before it is not left out. -/
theorem host_port {port : String} (hport : IsPort port) : host (":" ++ port) = ":" ++ port := by
  have hsplit := hport.splitLast?_append ""
  rw [String.empty_append] at hsplit
  rw [host, hsplit]
  rfl

/-- What does not end in a port is a host as it is. -/
theorem host_eq_self {authority : String}
    (h : ∀ start port, authority.toList = start ++ ':' :: port → ∃ c ∈ port, c.isDigit = false) :
    host authority = authority := by
  rcases host_cases authority with heq | ⟨-, port, hport, heq⟩
  · exact heq
  · have hchars : authority.toList = (host authority).toList ++ ':' :: port.toList := by
      rw [← String.toList_inj] at heq
      simpa using heq
    obtain ⟨c, hc, hdigit⟩ := h _ _ hchars
    rw [hport c hc] at hdigit
    cases hdigit

/-- An endpoint is its own `Address.host`: it does not end in a port. -/
theorem IsEndpoint.host_eq {endpoint : String} (h : IsEndpoint endpoint) :
    Address.host endpoint = endpoint :=
  host_eq_self fun _ _ => h.not_port

/-- **The host that is cut out is an endpoint exactly if the authority names one**, and then it is
that one. -/
theorem names_iff (authority endpoint : String) :
    Names authority endpoint ↔ IsEndpoint endpoint ∧ host authority = endpoint := by
  constructor
  · rintro ⟨h, rfl | ⟨port, hport, rfl⟩⟩
    · exact ⟨h, h.host_eq⟩
    · exact ⟨h, host_append_port h.ne_empty hport⟩
  · rintro ⟨h, rfl⟩
    exact ⟨h, (host_cases authority).imp Eq.symm And.right⟩

/-! ## Addresses -/

/-- The base URL on a host, by scheme. -/
def urlOn (scheme host : String) : String :=
  if scheme ∈ secureSchemes then "https://" ++ host else "http://" ++ host ++ ":7474"

/-- The base URLs of one scheme on two hosts are the same only if the hosts are. -/
theorem urlOn_inj {scheme host host' : String} :
    urlOn scheme host = urlOn scheme host' ↔ host = host' := by
  unfold urlOn
  split
  · exact String.append_right_inj _
  · rw [String.append_left_inj, String.append_right_inj]

/-- Whether a text may stand after an authority: nothing, or something that begins with a slash. -/
def IsPath (path : String) : Prop := ∀ c ∈ path.toList.head?, c = '/'

/-- **An address has a scheme and an authority**, which goes up to the first slash. White space
around an address does not count. -/
def Addresses (uri scheme authority : String) : Prop :=
  '/' ∉ authority.toList ∧
    ∃ path, IsPath path ∧ Text.trim uri = scheme ++ "://" ++ (authority ++ path)

/-- No colon and no slash stands in a scheme of the database's own protocol, and none of them is one
of the `webSchemes`. -/
theorem not_mem_scheme {scheme : String} (h : scheme ∈ plainSchemes ++ secureSchemes) :
    ':' ∉ scheme.toList ∧ '/' ∉ scheme.toList ∧ scheme ∉ webSchemes := by
  have hall : ∀ scheme ∈ plainSchemes ++ secureSchemes,
      ':' ∉ scheme.toList ∧ '/' ∉ scheme.toList ∧ scheme ∉ webSchemes := by decide
  exact hall scheme h

/-- **The base URL of an address** in a scheme of the database's own protocol. -/
theorem baseUrl_of_split {uri scheme rest : String}
    (hscheme : scheme ∈ plainSchemes ++ secureSchemes)
    (hsplit : Text.splitOnce? "://" (Text.trimEndWhere (· == '/') (Text.trim uri))
      = some (scheme, rest)) :
    baseUrl uri = if host (authority rest) = "" then
        .error (.invalidConfig
          ("missing host in " ++ Text.quoted (Text.trimEndWhere (· == '/') (Text.trim uri))))
      else .ok (urlOn scheme (host (authority rest))) := by
  have hweb : webSchemes.contains scheme = false := by
    simpa using (not_mem_scheme hscheme).2.2
  have hown : (plainSchemes.contains scheme || secureSchemes.contains scheme) = true := by
    simpa using hscheme
  have hport : ":" ++ toString defaultPort = ":7474" := by decide
  simp only [baseUrl, hsplit, hweb, hown, urlOn, List.contains_iff_mem, String.isEmpty_iff,
    if_true, Bool.false_eq_true, if_false]
  by_cases hhost : host (authority rest) = ""
  · rw [if_pos hhost, if_pos hhost]
  · rw [if_neg hhost, if_neg hhost]
    by_cases hsecure : scheme ∈ secureSchemes
    · rw [if_pos hsecure, if_pos hsecure]
    · rw [if_neg hsecure, if_neg hsecure, ← hport, ← String.append_assoc]

/-- `authority` cuts a text at its first slash, so it gives back what stands before a path. -/
theorem authority_append {start path : String} (hstart : '/' ∉ start.toList)
    (hpath : IsPath path) : authority (start ++ path) = start := by
  have hstay : ∀ c ∈ start.toList, (c != '/') = true := fun c hc =>
    bne_iff_ne.2 (ne_of_mem_of_not_mem hc hstart)
  have hstop : path.toList.takeWhile (· != '/') = [] := by
    cases hchars : path.toList with
    | nil => rfl
    | cons c cs =>
      obtain rfl : c = '/' := hpath c (by rw [hchars]; rfl)
      rfl
  rw [authority, String.toList_append, List.takeWhile_append_of_pos hstay, hstop,
    List.append_nil, String.ofList_toList]

/-- Every text is its `authority`, without a slash, followed by a path. -/
theorem exists_append_authority (rest : String) :
    '/' ∉ (authority rest).toList ∧ ∃ path, IsPath path ∧ rest = authority rest ++ path := by
  refine ⟨fun hmem => ?_, String.ofList (rest.toList.dropWhile (· != '/')), fun c hc => ?_, ?_⟩
  · rw [authority, String.toList_ofList] at hmem
    have hslash := List.all_eq_true.1 List.all_takeWhile '/' hmem
    cases hslash
  · rw [String.toList_ofList, Option.mem_def] at hc
    have hstop := List.head?_dropWhile_not (· != '/') rest.toList
    rw [hc] at hstop
    simpa using hstop
  · rw [authority, ← String.ofList_append, List.takeWhile_append_dropWhile, String.ofList_toList]

/-- Cutting characters off the end of a path leaves a path. -/
theorem IsPath.trimEnd {path : String} (h : IsPath path) (p : Char → Bool) :
    IsPath (Text.trimEndWhere p path) := by
  intro c hc
  obtain ⟨dropped, hdropped, -⟩ := Text.exists_append_trimEndWhere p path
  refine h c ?_
  rw [hdropped, String.toList_append, List.head?_append, Option.mem_def.1 hc]
  rfl

/-- Slashes put at the end of a path leave it a path. -/
theorem IsPath.append {path slashes : String} (h : IsPath path)
    (hslashes : ∀ c ∈ slashes.toList, c = '/') : IsPath (path ++ slashes) := by
  intro c hc
  rw [String.toList_append, List.head?_append, Option.mem_def] at hc
  cases hhead : path.toList.head? with
  | some d =>
    rw [hhead] at hc
    cases hc
    exact h c hhead
  | none =>
    rw [hhead] at hc
    exact hslashes c (List.mem_of_mem_head? hc)

/-- What is left of an address without the slashes at its end: all but some of its path, or nothing
after the scheme if there is no authority. -/
theorem trimEndWhere_address {scheme authority path : String}
    (hscheme : scheme ∈ plainSchemes ++ secureSchemes) (hauthority : '/' ∉ authority.toList)
    (hpath : IsPath path) :
    (authority = "" ∧ Text.trimEndWhere (· == '/') (scheme ++ "://" ++ (authority ++ path))
      = scheme ++ ":") ∨
    ∃ path', IsPath path' ∧ Text.trimEndWhere (· == '/') (scheme ++ "://" ++ (authority ++ path))
      = scheme ++ "://" ++ (authority ++ path') := by
  have hnoSlash : ∀ {s : String}, '/' ∉ s.toList → ∀ c ∈ s.toList, (c == '/') = false :=
    fun hs c hc => beq_eq_false_iff_ne.2 (ne_of_mem_of_not_mem hc hs)
  rw [Text.trimEndWhere_append_eq, Text.trimEndWhere_append (hnoSlash hauthority)]
  by_cases hempty : authority ++ Text.trimEndWhere (· == '/') path = ""
  · -- nothing keeps the slashes of the mark after the scheme from being left out, too
    have hstart : '/' ∉ (scheme ++ ":").toList := by
      simp [(not_mem_scheme hscheme).2.1]
    have hslashes : scheme ++ "://" = scheme ++ ":" ++ "//" := by
      rw [String.append_assoc]
      rfl
    rw [if_pos hempty, hslashes, Text.trimEndWhere_append (hnoSlash hstart)]
    exact .inl ⟨(String.append_eq_empty_iff.1 hempty).1, String.append_empty⟩
  · rw [if_neg hempty]
    exact .inr ⟨_, hpath.trimEnd _, rfl⟩

/-- An address without an authority is refused. -/
theorem baseUrl_of_no_authority {uri scheme : String}
    (hscheme : scheme ∈ plainSchemes ++ secureSchemes) (h : Addresses uri scheme "") :
    ∃ problem, baseUrl uri = .error (.invalidConfig problem) := by
  obtain ⟨hslash, path, hpath, huri⟩ := h
  rcases trimEndWhere_address hscheme hslash hpath with ⟨-, htrim⟩ | ⟨path', hpath', htrim⟩
  · -- there is no mark left, and it is the scheme that is missed
    have hnone : Text.splitOnce? "://" (scheme ++ ":") = none := by
      cases hsplit : Text.splitOnce? "://" (scheme ++ ":") with
      | none => rfl
      | some parts =>
        have hslash : '/' ∈ (scheme ++ ":").toList := by
          rw [Text.append_of_splitOnce? hsplit]
          simp
        simp [(not_mem_scheme hscheme).2.1] at hslash
    rw [← huri] at htrim
    refine ⟨"missing scheme in " ++ Text.quoted (scheme ++ ":"), ?_⟩
    simp only [baseUrl, htrim, hnone]
  · rw [← huri] at htrim
    have hsplit : Text.splitOnce? "://" (scheme ++ "://" ++ ("" ++ path'))
        = some (scheme, "" ++ path') :=
      Text.splitOnce?_append (not_mem_scheme hscheme).1 _
    rw [← htrim] at hsplit
    refine ⟨_, (baseUrl_of_split hscheme hsplit).trans (if_pos ?_)⟩
    rw [authority_append hslash hpath']
    rfl

/-- **The base URL of an address in the database's own protocol** is `urlOn` of its scheme and of
the host of its authority, whatever follows the authority. -/
theorem baseUrl_of_authority {uri scheme authority : String}
    (hscheme : scheme ∈ plainSchemes ++ secureSchemes) (h : Addresses uri scheme authority)
    (hne : authority ≠ "") :
    host authority ≠ "" ∧ baseUrl uri = .ok (urlOn scheme (host authority)) := by
  obtain ⟨hslash, path, hpath, huri⟩ := h
  rcases trimEndWhere_address hscheme hslash hpath with ⟨hempty, -⟩ | ⟨path', hpath', htrim⟩
  · exact absurd hempty hne
  · have hsplit : Text.splitOnce? "://" (scheme ++ "://" ++ (authority ++ path'))
        = some (scheme, authority ++ path') :=
      Text.splitOnce?_append (not_mem_scheme hscheme).1 _
    rw [← htrim, ← huri] at hsplit
    have hhost : host authority ≠ "" := by
      rcases host_cases authority with heq | ⟨hhost, -⟩
      · rw [heq]
        exact hne
      · exact hhost
    have hurl := baseUrl_of_split hscheme hsplit
    rw [authority_append hslash hpath', if_neg hhost] at hurl
    exact ⟨hhost, hurl⟩

/-- **The base URL is on an endpoint** exactly if the authority names it. -/
theorem names_iff_baseUrl {uri scheme authority : String}
    (hscheme : scheme ∈ plainSchemes ++ secureSchemes) (h : Addresses uri scheme authority)
    (endpoint : String) :
    Names authority endpoint ↔
      IsEndpoint endpoint ∧ baseUrl uri = .ok (urlOn scheme endpoint) := by
  by_cases hempty : authority = ""
  · subst hempty
    obtain ⟨problem, hrefused⟩ := baseUrl_of_no_authority hscheme h
    rw [names_iff, hrefused]
    constructor
    · rintro ⟨hendpoint, rfl⟩
      exact absurd rfl hendpoint.ne_empty
    · rintro ⟨-, hurl⟩
      cases hurl
  · rw [names_iff, (baseUrl_of_authority hscheme h hempty).2, Except.ok.injEq, urlOn_inj]

/-- An address that is accepted is a web address or has an authority. -/
theorem exists_addresses_of_ok {uri url : String} (h : baseUrl uri = .ok url) :
    (∃ scheme ∈ webSchemes, ∃ rest, Text.trim uri = scheme ++ "://" ++ rest) ∨
      ∃ scheme ∈ plainSchemes ++ secureSchemes, ∃ authority,
        authority ≠ "" ∧ Addresses uri scheme authority := by
  obtain ⟨slashes, huri, hslashes⟩ :=
    Text.exists_append_trimEndWhere (· == '/') (Text.trim uri)
  cases hsplit : Text.splitOnce? "://" (Text.trimEndWhere (· == '/') (Text.trim uri)) with
  | none =>
    simp only [baseUrl, hsplit] at h
    cases h
  | some parts =>
    obtain ⟨scheme, rest⟩ := parts
    rw [Text.append_of_splitOnce? hsplit, String.append_assoc] at huri
    by_cases hweb : scheme ∈ webSchemes
    · exact .inl ⟨scheme, hweb, _, huri⟩
    by_cases hown : scheme ∈ plainSchemes ++ secureSchemes
    · -- the slashes that were left out are part of the path
      obtain ⟨hslash, path, hpath, hrest⟩ := exists_append_authority rest
      refine .inr ⟨scheme, hown, authority rest, ?_, hslash, path ++ slashes, ?_, ?_⟩
      · intro hempty
        rw [baseUrl_of_split hown hsplit, hempty] at h
        cases h
      · exact hpath.append fun c hc => beq_iff_eq.1 (hslashes c hc)
      · have hparts : rest ++ slashes = authority rest ++ (path ++ slashes) := by
          rw [← String.append_assoc, ← hrest]
        rw [huri, hparts]
    · -- no other scheme is accepted
      have hnotWeb : webSchemes.contains scheme = false := by simpa using hweb
      have hnotOwn : (plainSchemes.contains scheme || secureSchemes.contains scheme) = false := by
        simpa using hown
      simp only [baseUrl, hsplit, hnotWeb, hnotOwn, Bool.false_eq_true, if_false] at h
      cases h

/-- **The endpoint of a base URL is the one that is named.** An address is accepted only if it is a
web address, or in a scheme of the database's own protocol and has an authority. In these schemes
every address that has one is accepted; but the base URL is on an endpoint exactly if the authority
names it. So where an authority has no host, or more after it than a port, the base URL is on none.
In particular, an authority that is only a port is taken for a host. -/
theorem endpoint_iff_named (uri : String) :
    (∀ url, baseUrl uri = .ok url →
      (∃ scheme ∈ webSchemes, ∃ rest, Text.trim uri = scheme ++ "://" ++ rest) ∨
        ∃ scheme ∈ plainSchemes ++ secureSchemes, ∃ authority,
          authority ≠ "" ∧ Addresses uri scheme authority) ∧
    ∀ scheme ∈ plainSchemes ++ secureSchemes, ∀ authority, Addresses uri scheme authority →
      (authority = "" → ∃ problem, baseUrl uri = .error (.invalidConfig problem)) ∧
      (authority ≠ "" →
        host authority ≠ "" ∧ baseUrl uri = .ok (urlOn scheme (host authority))) ∧
      (∀ endpoint, Names authority endpoint ↔
        IsEndpoint endpoint ∧ baseUrl uri = .ok (urlOn scheme endpoint)) ∧
      ∀ port, IsPort port → authority = ":" ++ port →
        baseUrl uri = .ok (urlOn scheme authority) := by
  refine ⟨fun url => exists_addresses_of_ok, fun scheme hscheme authority h =>
    ⟨?_, baseUrl_of_authority hscheme h, names_iff_baseUrl hscheme h, ?_⟩⟩
  · rintro rfl
    exact baseUrl_of_no_authority hscheme h
  · rintro port hport rfl
    have hurl := (baseUrl_of_authority hscheme h (by simp)).2
    rwa [host_port hport] at hurl

/-- A user, a host between brackets, a port and a path; an address without an authority; and one
that has only a port. -/
theorem endpoint_iff_named_brackets :
    baseUrl " neo4j+s://u:1@[::1]:7687/x/ " = .ok "https://u:1@[::1]" ∧
      IsEndpoint "u:1@[::1]" ∧ (∃ problem, baseUrl "bolt:///x" = .error (.invalidConfig problem)) ∧
      baseUrl "neo4j://:/" = .ok "http://::7474" := by
  have hendpoint : IsEndpoint "u:1@[::1]" :=
    @IsEndpoint.userHost "u:1" _ (by simp [isNameChar, Text.isBlank])
      (@IsHost.literal "::1" (by decide) (by simp [isNameChar, Text.isBlank]))
  have hnames : Names "u:1@[::1]:7687" "u:1@[::1]" :=
    ⟨hendpoint, .inr ⟨"7687", by simp [IsPort], by decide⟩⟩
  have hbrackets : Addresses " neo4j+s://u:1@[::1]:7687/x/ " "neo4j+s" "u:1@[::1]:7687" :=
    ⟨by decide, "/x/", by simp [IsPath], by decide⟩
  have hnone : Addresses "bolt:///x" "bolt" "" := ⟨by decide, "/x", by simp [IsPath], by decide⟩
  have hport : Addresses "neo4j://:/" "neo4j" ":" := ⟨by decide, "/", by simp [IsPath], by decide⟩
  have hurl := (endpoint_iff_named _).2 _ (by decide) _ hbrackets
  refine ⟨((hurl.2.2.1 _).1 hnames).2, hendpoint, ?_, ?_⟩
  · exact ((endpoint_iff_named _).2 _ (by decide) _ hnone).1 rfl
  · exact ((endpoint_iff_named _).2 _ (by decide) _ hport).2.2.2 "" (by simp [IsPort]) rfl

/-- **A port is taken for a host**: the authority names no endpoint, but the address is accepted,
and no request can be sent to what comes of it. -/
theorem port_taken_for_host :
    Addresses "bolt://:7687" "bolt" ":7687" ∧ (¬ ∃ endpoint, Names ":7687" endpoint) ∧
      baseUrl "bolt://:7687" = .ok "http://:7687:7474" ∧
      Url.normal? "http://:7687:7474/db/neo4j/tx/commit" = none := by
  refine ⟨⟨by decide, "", by simp [IsPath], by decide⟩, ?_, by decide, by decide +kernel⟩
  rintro ⟨endpoint, hnames⟩
  -- it would have to be the whole authority, but an endpoint does not end in a port
  obtain ⟨hendpoint, rfl⟩ := (names_iff _ _).1 hnames
  have hchars : (host ":7687").toList = [] ++ ':' :: "7687".toList := by decide
  obtain ⟨c, hc, hdigit⟩ := hendpoint.not_port hchars
  have hall : ∀ c ∈ "7687".toList, c.isDigit = true := by simp
  rw [hall c hc] at hdigit
  cases hdigit

end Address

end CodeGraph
