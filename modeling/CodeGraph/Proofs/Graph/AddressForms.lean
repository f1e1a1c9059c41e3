import CodeGraph.Proofs.Graph.Hosts

/-! # Ways to write an address

An address is written with a host and, as one likes, with a port, a path, slashes at its end and
white space around it (`Address.Parts`). In the schemes of the database's own protocol only the host
matters: all these texts have an authority (`Address.Parts.addresses_uri`), and the host is told
from the port in it (`Address.Parts.host_authority`). Colons between brackets do no harm, since what
follows the last of them ends in a bracket.

A web address is kept but for slashes at its end. Nothing is left then that could be taken away
(`Address.Parts.trim_url`), so that it is its own base URL. -/

namespace CodeGraph

namespace Address

/-! ## Parts of an address -/

/-- **Hosts as they are written**: any text without the marks that end a host, or a text between
brackets, in which colons may stand. -/
inductive IsWrittenHost : String → Prop where
  | name {name : String} (hne : name ≠ "")
      (h : ∀ c ∈ name.toList, c ∉ ['/', ':', '?', '#'] ∧ Text.isBlank c = false) :
      IsWrittenHost name
  | bracketed {inner : String} (h : ∀ c ∈ inner.toList, c ≠ '/' ∧ Text.isBlank c = false) :
      IsWrittenHost ("[" ++ inner ++ "]")

/-- A digit is neither a slash nor white space, so a port is solid text. -/
theorem solid_of_isDigit {c : Char} (h : c.isDigit) : c ≠ '/' ∧ Text.isBlank c = false := by
  have hrange : 48 ≤ c.toNat ∧ c.toNat ≤ 57 := by
    simpa [Char.isDigit, UInt32.le_iff_toNat_le] using h
  refine ⟨?_, ?_⟩
  · rintro rfl
    simp at hrange
  · simp [Text.isBlank]
    omega

/-- **The parts of an address** that is well-formed: a host, a port or none, a path or none, slashes
at the end and white space around it. -/
structure Parts where
  host : String
  isHost : IsWrittenHost host
  port : Option String
  isPort : ∀ digits ∈ port, digits ≠ "" ∧ IsPort digits
  path : String
  isPath : IsPath path
  /-- Number of slashes at the end. -/
  slashes : Nat
  before : String
  blank_before : ∀ c ∈ before.toList, Text.isBlank c = true
  after : String
  blank_after : ∀ c ∈ after.toList, Text.isBlank c = true

/-- A host as it is written is its own `Address.host`: there is no port to cut off. -/
theorem IsWrittenHost.host_eq {host : String} (h : IsWrittenHost host) :
    Address.host host = host := by
  refine host_eq_self fun start port heq => ?_
  cases h with
  | name _ h => exact absurd (h ':' (by rw [heq]; simp)).1 (by simp)
  | bracketed => exact bracketed_not_port heq

/-- No host as it is written is the empty text. -/
theorem IsWrittenHost.ne_empty {host : String} (h : IsWrittenHost host) : host ≠ "" := by
  cases h with
  | name hne => exact hne
  | bracketed => simp

/-- There are no slashes and no white space in a host. -/
theorem IsWrittenHost.solid {host : String} (h : IsWrittenHost host) :
    ∀ c ∈ host.toList, c ≠ '/' ∧ Text.isBlank c = false := by
  cases h with
  | name _ h =>
    intro c hc
    obtain ⟨hmarks, hblank⟩ := h c hc
    exact ⟨fun heq => hmarks (by simp [heq]), hblank⟩
  | @bracketed inner h =>
    intro c hc
    have hmem : c = '[' ∨ c ∈ inner.toList ∨ c = ']' := by simpa using hc
    rcases hmem with rfl | hc | rfl
    · exact ⟨by decide, rfl⟩
    · exact h c hc
    · exact ⟨by decide, rfl⟩

namespace Parts

variable (p : Parts)

/-- Host and port. -/
def authority : String :=
  match p.port with
  | none => p.host
  | some port => p.host ++ ":" ++ port

/-- The address in a scheme, without white space around it. -/
def text (scheme : String) : String :=
  scheme ++ "://" ++ (p.authority ++ (p.path ++ String.ofList (List.replicate p.slashes '/')))

/-- The address in a scheme. -/
def uri (scheme : String) : String := p.before ++ p.text scheme ++ p.after

/-- Whether there is no white space before the slashes at the end. -/
def Tight : Prop :=
  ∀ c ∈ (Text.trimEndWhere (· == '/') p.path).toList.getLast?, Text.isBlank c = false

/-- The address in a scheme, without the slashes at its end. -/
def url (scheme : String) : String :=
  scheme ++ "://" ++ (p.authority ++ Text.trimEndWhere (· == '/') p.path)

/-- **The host is told from the port.** -/
theorem host_authority : Address.host p.authority = p.host := by
  have hport := p.isPort
  rw [authority]
  cases heq : p.port with
  | none => exact p.isHost.host_eq
  | some port => exact host_append_port p.isHost.ne_empty (hport port heq).2

/-- The authority of `Parts` is never empty, since its host is not. -/
theorem authority_ne_empty : p.authority ≠ "" := by
  rw [authority]
  cases p.port with
  | none => exact p.isHost.ne_empty
  | some port => simp

/-- The authority of `Parts` holds no slash and no white space: neither its host nor its port
does. -/
theorem solid_authority : ∀ c ∈ p.authority.toList, c ≠ '/' ∧ Text.isBlank c = false := by
  have hhost := p.isHost.solid
  have hport := p.isPort
  rw [authority]
  cases heq : p.port with
  | none => exact hhost
  | some port =>
    intro c hc
    have hmem : c ∈ p.host.toList ∨ c = ':' ∨ c ∈ port.toList := by simpa using hc
    rcases hmem with hc | rfl | hc
    · exact hhost c hc
    · exact ⟨by decide, rfl⟩
    · exact solid_of_isDigit ((hport port heq).2 c hc)

/-- No scheme has white space or a colon in it. -/
theorem solid_scheme {scheme : String}
    (h : scheme ∈ plainSchemes ++ secureSchemes ++ webSchemes) :
    scheme ≠ "" ∧ ':' ∉ scheme.toList ∧ ∀ c ∈ scheme.toList, Text.isBlank c = false := by
  have hall : ∀ scheme ∈ plainSchemes ++ secureSchemes ++ webSchemes,
      scheme ≠ "" ∧ ':' ∉ scheme.toList ∧ scheme.toList.all fun c => !Text.isBlank c := by decide
  obtain ⟨hne, hcolon, hblank⟩ := hall scheme h
  exact ⟨hne, hcolon, by simpa using hblank⟩

/-- The slashes at the end, with those that the path ends in. -/
theorem exists_slashes :
    ∃ tail : String, (∀ c ∈ tail.toList, c = '/') ∧
      p.path ++ String.ofList (List.replicate p.slashes '/')
        = Text.trimEndWhere (· == '/') p.path ++ tail := by
  obtain ⟨dropped, hpath, hdropped⟩ := Text.exists_append_trimEndWhere (· == '/') p.path
  refine ⟨dropped ++ String.ofList (List.replicate p.slashes '/'), fun c hc => ?_, ?_⟩
  · rw [String.toList_append, List.mem_append, String.toList_ofList] at hc
    rcases hc with hc | hc
    · exact beq_iff_eq.1 (hdropped c hc)
    · exact List.eq_of_mem_replicate hc
  · rw [← String.append_assoc, ← hpath]

section Trimmed

variable {scheme : String} (hscheme : scheme ∈ plainSchemes ++ secureSchemes ++ webSchemes)
include hscheme

/-- White space is taken away around an address, and at the end of its path. -/
theorem trim_uri :
    Text.trim (p.uri scheme) = scheme ++ "://" ++ (p.authority ++
      Text.trimEnd (p.path ++ String.ofList (List.replicate p.slashes '/'))) := by
  obtain ⟨hne, -, hsolid⟩ := solid_scheme hscheme
  obtain ⟨c, cs, hcs⟩ := Text.exists_toList_eq_cons hne
  have htext : (p.text scheme).toList = c :: (cs ++ ("://" ++ (p.authority ++
      (p.path ++ String.ofList (List.replicate p.slashes '/')))).toList) := by
    rw [text, String.append_assoc, String.toList_append, hcs, List.cons_append]
  have hfirst : Text.isBlank c = false := hsolid c (hcs ▸ List.mem_cons_self)
  have hstart : ∀ c ∈ (scheme ++ "://" ++ p.authority).toList, Text.isBlank c = false := by
    intro c hc
    have hmem : c ∈ scheme.toList ∨ c = ':' ∨ c = '/' ∨ c ∈ p.authority.toList := by
      simpa using hc
    rcases hmem with hc | rfl | rfl | hc
    · exact hsolid c hc
    · rfl
    · rfl
    · exact (p.solid_authority c hc).2
  rw [uri, Text.trim_surrounded htext hfirst p.blank_before p.blank_after, text,
    ← String.append_assoc, Text.trimEnd, Text.trimEndWhere_append hstart, String.append_assoc]
  rfl

end Trimmed

/-! ## The database's own protocol -/

/-- **The written address has the parts it was made of**: `uri` addresses its scheme and
authority. -/
theorem addresses_uri {scheme : String} (hscheme : scheme ∈ plainSchemes ++ secureSchemes) :
    Addresses (p.uri scheme) scheme p.authority := by
  have hpath : IsPath (p.path ++ String.ofList (List.replicate p.slashes '/')) := by
    refine p.isPath.append fun c hc => ?_
    rw [String.toList_ofList] at hc
    exact List.eq_of_mem_replicate hc
  refine ⟨fun hslash => (p.solid_authority _ hslash).1 rfl, _, hpath.trimEnd Text.isBlank, ?_⟩
  exact p.trim_uri (List.mem_append_left _ hscheme)

/-- **Only scheme and host matter** in the schemes of the database's own protocol. -/
theorem baseUrl_uri {scheme : String} (hscheme : scheme ∈ plainSchemes ++ secureSchemes) :
    baseUrl (p.uri scheme) = .ok (urlOn scheme p.host) := by
  obtain ⟨-, hurl⟩ :=
    baseUrl_of_authority hscheme (p.addresses_uri hscheme) p.authority_ne_empty
  rwa [p.host_authority] at hurl

/-! ## Web addresses -/

variable {p}

/-- A web address without slashes at its end ends in a character that is never taken away. -/
theorem Tight.getLast?_url (htight : p.Tight) (scheme : String) :
    ∀ c ∈ (p.url scheme).toList.getLast?, c ≠ '/' ∧ Text.isBlank c = false := by
  intro c hc
  obtain ⟨last, hlast⟩ : ∃ last, p.authority.toList.getLast? = some last := by
    obtain ⟨d, ds, hds⟩ := Text.exists_toList_eq_cons p.authority_ne_empty
    exact ⟨_, by rw [hds]; exact List.getLast?_eq_some_getLast (List.cons_ne_nil d ds)⟩
  have hkept := Text.getLast?_trimEndWhere (· == '/') p.path
  simp only [url, String.toList_append, List.getLast?_append, hlast] at hc
  cases hpath : (Text.trimEndWhere (· == '/') p.path).toList.getLast? with
  | none =>
    -- there is no path, and the last character is that of the authority
    rw [hpath] at hc
    cases hc
    exact p.solid_authority c (List.mem_of_getLast? hlast)
  | some d =>
    rw [hpath] at hc
    cases hc
    exact ⟨by simpa using hkept c hpath, htight c hpath⟩

/-- Cutting the slashes at the end off `text` leaves `url`, if the path is `Tight`. -/
theorem trimEndWhere_text (htight : p.Tight) (scheme : String) :
    Text.trimEndWhere (· == '/') (p.text scheme) = p.url scheme := by
  obtain ⟨tail, htail, hpath⟩ := p.exists_slashes
  have htext : p.text scheme = p.url scheme ++ tail := by
    simp only [text, url, hpath, String.append_assoc]
  rw [htext]
  refine Text.trimEndWhere_append_of_all (fun c hc => ?_) fun c hc => ?_
  · exact beq_eq_false_iff_ne.2 (htight.getLast?_url scheme c hc).1
  · exact beq_iff_eq.2 (htail c hc)

/-- Nothing is taken away from a web address without slashes at its end. -/
theorem Tight.trim_url (htight : p.Tight) {scheme : String} (hscheme : scheme ∈ webSchemes) :
    Text.trimEndWhere (· == '/') (Text.trim (p.url scheme)) = p.url scheme := by
  obtain ⟨hne, -, hsolid⟩ := solid_scheme (List.mem_append_right _ hscheme)
  obtain ⟨c, cs, hcs⟩ := Text.exists_toList_eq_cons hne
  have hurl : (p.url scheme).toList = c :: (cs ++ ("://" ++ (p.authority ++
      Text.trimEndWhere (· == '/') p.path)).toList) := by
    rw [url, String.append_assoc, String.toList_append, hcs, List.cons_append]
  have htrim : Text.trim ("" ++ p.url scheme ++ "") = Text.trimEnd (p.url scheme) :=
    Text.trim_surrounded hurl (hsolid c (hcs ▸ List.mem_cons_self)) (by simp) (by simp)
  rw [String.empty_append, String.append_empty] at htrim
  have hlast := htight.getLast?_url scheme
  rw [htrim, Text.trimEnd, Text.trimEndWhere_eq_self fun c hc => (hlast c hc).2,
    Text.trimEndWhere_eq_self fun c hc => beq_eq_false_iff_ne.2 (hlast c hc).1]

/-- White space before the slashes at the end is what the path could lose; without it, an address is
trimmed to its text. -/
theorem Tight.trim_uri (htight : p.Tight) {scheme : String} (hscheme : scheme ∈ webSchemes) :
    Text.trim (p.uri scheme) = p.text scheme := by
  obtain ⟨tail, htail, hpath⟩ := p.exists_slashes
  have hlast : ∀ c ∈ (p.path ++ String.ofList (List.replicate p.slashes '/')).toList.getLast?,
      Text.isBlank c = false := by
    intro c hc
    rw [hpath, String.toList_append, List.getLast?_append] at hc
    cases hslash : tail.toList.getLast? with
    | none =>
      rw [hslash, Option.none_or] at hc
      exact htight c hc
    | some d =>
      rw [hslash] at hc
      cases hc
      rw [htail c (List.mem_of_getLast? hslash)]
      rfl
  rw [Parts.trim_uri p (List.mem_append_right _ hscheme), Text.trimEnd,
    Text.trimEndWhere_eq_self hlast]
  rfl

end Parts

/-- **A web address is its own base URL**, but for what is trimmed. -/
theorem baseUrl_of_web {uri scheme rest : String} (hscheme : scheme ∈ webSchemes)
    (h : Text.trimEndWhere (· == '/') (Text.trim uri) = scheme ++ "://" ++ rest) :
    baseUrl uri = .ok (scheme ++ "://" ++ rest) := by
  have hcolon := (Parts.solid_scheme (List.mem_append_right _ hscheme)).2.1
  have hsplit : Text.splitOnce? "://" (scheme ++ "://" ++ rest) = some (scheme, rest) :=
    Text.splitOnce?_append hcolon _
  have hweb : webSchemes.contains scheme = true := by simpa using hscheme
  simp only [baseUrl, h, hsplit, hweb, if_true]

/-- **Well-formed addresses lead to their host.** Whatever the port, the path, the slashes at the
end and the white space around an address, in the schemes of the database's own protocol its base
URL is on the host, at the port for requests over HTTP or encrypted; so two addresses with the same
host have the same base URL. A web address with no white space before the slashes at its end is kept
without these and without white space around it. What is left does not end in a slash, and is its
own base URL. -/
theorem wellFormed_leads_to_host (p : Parts) :
    (∀ scheme ∈ plainSchemes, baseUrl (p.uri scheme) = .ok ("http://" ++ p.host ++ ":7474")) ∧
    (∀ scheme ∈ secureSchemes, baseUrl (p.uri scheme) = .ok ("https://" ++ p.host)) ∧
    (∀ scheme ∈ plainSchemes ++ secureSchemes, ∀ q : Parts, q.host = p.host →
      baseUrl (q.uri scheme) = baseUrl (p.uri scheme)) ∧
    ∀ scheme ∈ webSchemes, p.Tight → ∃ url,
      baseUrl (p.uri scheme) = .ok url ∧
      url = Text.trimEndWhere (· == '/') (p.text scheme) ∧
      url = scheme ++ "://" ++ (p.authority ++ Text.trimEndWhere (· == '/') p.path) ∧
      url.toList.getLast? ≠ some '/' ∧ baseUrl url = .ok url := by
  refine ⟨fun scheme hscheme => ?_, fun scheme hscheme => ?_, fun scheme hscheme q hhost => ?_,
    fun scheme hscheme htight => ?_⟩
  · have hplain : ∀ scheme ∈ plainSchemes, scheme ∉ secureSchemes := by decide
    rw [p.baseUrl_uri (List.mem_append_left _ hscheme), urlOn, if_neg (hplain scheme hscheme)]
  · rw [p.baseUrl_uri (List.mem_append_right _ hscheme), urlOn, if_pos hscheme]
  · rw [q.baseUrl_uri hscheme, p.baseUrl_uri hscheme, hhost]
  · have hurl := Parts.trimEndWhere_text htight scheme
    have htrim : Text.trimEndWhere (· == '/') (Text.trim (p.uri scheme)) = p.url scheme := by
      rw [htight.trim_uri hscheme, hurl]
    refine ⟨p.url scheme, baseUrl_of_web hscheme htrim, hurl.symm, rfl, fun hslash => ?_,
      baseUrl_of_web hscheme (htight.trim_url hscheme)⟩
    exact (htight.getLast?_url scheme _ hslash).1 rfl

/-- A host between brackets with a port and a path with white space in it, in three schemes. -/
theorem wellFormed_leads_to_host_brackets :
    baseUrl " neo4j://[::1]:7687/a b//\n" = .ok "http://[::1]:7474" ∧
      baseUrl " bolt+ssc://[::1]:7687/a b//\n" = .ok "https://[::1]" ∧
      baseUrl " http://[::1]:7687/a b//\n" = .ok "http://[::1]:7687/a b" ∧
      baseUrl "http://[::1]:7687/a b" = .ok "http://[::1]:7687/a b" := by
  let p : Parts :=
    { host := "[::1]"
      isHost := @IsWrittenHost.bracketed "::1" (by simp [Text.isBlank])
      port := some "7687"
      isPort := by simp [IsPort]
      path := "/a b/"
      isPath := by simp [IsPath]
      slashes := 1
      before := " "
      blank_before := by simp [Text.isBlank]
      after := "\n"
      blank_after := by simp [Text.isBlank] }
  have htight : p.Tight := by
    have hkept : Text.trimEndWhere (· == '/') p.path = "/a b" := by decide
    rw [Parts.Tight, hkept]
    simp [Text.isBlank]
  obtain ⟨hplain, hsecure, -, hweb⟩ := wellFormed_leads_to_host p
  obtain ⟨url, hurl, -, heq, -, hself⟩ := hweb "http" (by decide) htight
  have hkept : url = "http://[::1]:7687/a b" := heq.trans (by decide)
  subst hkept
  have hneo4j : p.uri "neo4j" = " neo4j://[::1]:7687/a b//\n" := by decide
  have hbolt : p.uri "bolt+ssc" = " bolt+ssc://[::1]:7687/a b//\n" := by decide
  have hhttp : p.uri "http" = " http://[::1]:7687/a b//\n" := by decide
  have hon : "http://" ++ p.host ++ ":7474" = "http://[::1]:7474" := by decide
  have hsafe : "https://" ++ p.host = "https://[::1]" := by decide
  rw [← hneo4j, ← hbolt, ← hhttp, ← hon, ← hsafe]
  exact ⟨hplain "neo4j" (by decide), hsecure "bolt+ssc" (by decide), hurl, hself⟩

end Address

end CodeGraph
