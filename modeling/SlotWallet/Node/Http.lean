import SlotWallet.Node.Call
import SlotWallet.Node.Envelope
import SlotWallet.Node.Url
import SlotWallet.Text.Utf8

/-!
# Calls over HTTP

Each call is one POST with the next number as its id, counted modulo `2 ^ 64` whatever becomes
of it. A reply may send the client on. After 307 and 308 it makes the same request at another
address, and after 301, 302 and 303 it asks there with a GET. The reply at the end of that way
counts. Where there is none, where the way has too many hops or leads to no web address, the
call is a transport failure; a status outside the two hundreds keeps a short form of the body.
-/

namespace SlotWallet

/-- A request that a reply sends the client on to make: the one before once more, or a GET
without a body. -/
inductive HttpHop where
  | repeated (url : String)
  | fetched (url : String)
deriving DecidableEq

namespace HttpHop

def url : HttpHop → String
  | repeated url => url
  | fetched url => url

def posts : HttpHop → Bool
  | repeated _ => true
  | fetched _ => false

end HttpHop

/-- A call as it is posted, and the hops that follow it. -/
structure HttpRequest where
  verb : String
  url : String
  userAgent : String
  contentType : String
  version : String
  id : Nat
  call : Call
  hops : List HttpHop

/-- The location of an answer is where the header of this name leads, if it can be read as an
address. -/
inductive HttpReply where
  | answer (status : Nat) (body : String) (location : Option String := none)
  | closed

structure HttpResponse where
  status : Nat
  body : String
  location : Option String
deriving DecidableEq

/-- How the way from a request ends: it goes astray where it leads to no web address. -/
inductive HttpEnd where
  | response (response : HttpResponse)
  | lost
  | tooManyHops
  | astray
deriving DecidableEq

/-- What is behind an address: a node, and wherever its replies lead. The replies are still to
come, one to each request. A node that is not reachable sees nothing. -/
structure HttpNode where
  reachable : Bool
  replies : List HttpReply
  requests : List HttpRequest

structure HttpLink where
  url : String
  maxHops : Nat
  nextId : Nat
  node : HttpNode

structure HttpExchange where
  hops : List HttpHop
  ending : HttpEnd
  replies : List HttpReply

/-- Other statuses below 200 only announce a reply. -/
def HttpResponse.isFinal (status : Nat) : Bool := status = 101 || (200 ≤ status && status < 1000)

def HttpResponse.hasBody (status : Nat) : Bool := status ∉ [101, 204, 304]

def HttpReply.response? : HttpReply → Option HttpResponse
  | .closed => none
  | .answer status body location =>
    if HttpResponse.isFinal status then
      some ⟨status, if HttpResponse.hasBody status then body else "", location⟩
    else none

def HttpReply.first? (replies : List HttpReply) : Option HttpResponse :=
  replies.head?.bind response?

/-- Where a response sends a client that has posted or not. -/
def HttpResponse.hop? (response : HttpResponse) (posted : Bool) : Option HttpHop :=
  response.location.bind fun url =>
    if response.status ∈ [301, 302, 303] then some (.fetched url)
    else if response.status ∈ [307, 308] then some (if posted then .repeated url else .fetched url)
    else none

namespace HttpLink

def userAgent : String := "cold-wallet/0.1.0"

def maxFailureBody : Nat := 256

def firstId : Nat := 1

/-- The most hops of a client that has been told nothing else. -/
def defaultMaxHops : Nat := 10

def ofNode (url : String) (node : HttpNode) : HttpLink := ⟨url, defaultMaxHops, firstId, node⟩

def requestOf (url : String) (id : Nat) (call : Call) (hops : List HttpHop) : HttpRequest :=
  ⟨"POST", url, userAgent, "application/json", "2.0", id, call, hops⟩

def follow (posted : Bool) (maxHops : Nat) (replies : List HttpReply) : HttpExchange :=
  match HttpReply.first? replies with
  | none => ⟨[], .lost, replies.tail⟩
  | some response =>
    match response.hop? posted, maxHops with
    | none, _ => ⟨[], .response response, replies.tail⟩
    | some _, 0 => ⟨[], .tooManyHops, replies.tail⟩
    | some hop, maxHops + 1 =>
      if Url.isUsable hop.url then
        let later := follow hop.posts maxHops replies.tail
        { later with hops := hop :: later.hops }
      else ⟨[], .astray, replies.tail⟩

def isSuccess (status : Nat) : Bool := 200 ≤ status && status < 300

def outcome : HttpEnd → Except WalletError Json
  | .lost => throw (.transport .unreachable)
  | .tooManyHops => throw (.transport .tooManyHops)
  | .astray => throw (.transport .badUrl)
  | .response ⟨status, body, _⟩ =>
    if isSuccess status then Envelope.outcome body
    else throw (.httpStatus status (String.ofList (Text.utf8Take maxFailureBody body.toList)))

def exchange (link : HttpLink) (call : Call) : HttpEnd × HttpNode :=
  if link.node.reachable then
    let done := follow true link.maxHops link.node.replies
    let request := requestOf link.url link.nextId call done.hops
    (done.ending,
      { link.node with replies := done.replies, requests := link.node.requests ++ [request] })
  else (.lost, link.node)

def call (link : HttpLink) (call : Call) : Except WalletError Json × HttpLink :=
  let nextId := (link.nextId + 1) % UInt64.size
  if Url.isUsable link.url then
    let (ending, node) := link.exchange call
    (outcome ending, { link with nextId, node })
  else (.error (.transport .badUrl), { link with nextId })

instance : Transport HttpLink := ⟨call, fun link _ => link⟩

end HttpLink

end SlotWallet
