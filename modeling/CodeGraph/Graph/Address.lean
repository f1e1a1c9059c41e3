import CodeGraph.Graph.Backend
import CodeGraph.Text.Blank

/-! # Addresses of databases

A database is given by a URI in one of several schemes. All of them lead to a base URL for requests
over HTTP: a web address is taken as it is, and of any other only the host is kept. -/

namespace CodeGraph.Address

/-- The port of the database for requests over HTTP. -/
def defaultPort : Nat := 7474

/-- Schemes of web addresses. -/
def webSchemes : List String := ["http", "https"]

/-- Schemes of the database's own protocol. -/
def plainSchemes : List String := ["bolt", "neo4j"]

/-- Schemes of the database's own protocol, encrypted. -/
def secureSchemes : List String := ["bolt+s", "neo4j+s", "bolt+ssc", "neo4j+ssc"]

/-- The part of an address that names host and port: what stands before the first slash. -/
def authority (rest : String) : String := String.ofList (rest.toList.takeWhile (· != '/'))

/-- An authority without its port, if it ends in one. -/
def host (authority : String) : String :=
  match Text.splitLast? ':' authority with
  | some (host, port) =>
    if !host.isEmpty && port.toList.all Char.isDigit then host else authority
  | none => authority

/-- The base URL of a database. -/
def baseUrl (uri : String) : Except GraphError String :=
  let uri := Text.trimEndWhere (· == '/') (Text.trim uri)
  match Text.splitOnce? "://" uri with
  | none => .error (.invalidConfig ("missing scheme in " ++ Text.quoted uri))
  | some (scheme, rest) =>
    if webSchemes.contains scheme then .ok uri
    else if plainSchemes.contains scheme || secureSchemes.contains scheme then
      let host := host (authority rest)
      if host.isEmpty then .error (.invalidConfig ("missing host in " ++ Text.quoted uri))
      else if secureSchemes.contains scheme then .ok ("https://" ++ host)
      else .ok ("http://" ++ host ++ ":" ++ toString defaultPort)
    else .error (.invalidConfig
      ("unsupported scheme " ++ Text.quoted scheme ++ " in " ++ Text.quoted uri))

end CodeGraph.Address
