import CbangEvent.Negotiation

/-!
# The request, its exchange and the transport

One flat record holds the `Request` object's fields, the exchange data it reaches through its
handle, the transport's side and the object's lifetime; the methods run in `RequestM`, whose
state survives a raise as a C++ method's side effects survive its exception.
-/

namespace CbangEvent

/-- A call the request makes to the transport, in the order it makes them. -/
inductive Primitive
  /-- `evhttp_send_reply`. -/
  | sendReply (code : Int)
  /-- `evhttp_send_error`. -/
  | sendError (code : Int)
  /-- `evhttp_send_reply_start`. -/
  | sendReplyStart (code : Int)
  /-- `evhttp_send_reply_chunk`. -/
  | sendReplyChunk (chunk : Bytes)
  /-- `evhttp_send_reply_end`. -/
  | sendReplyEnd
  /-- `evhttp_cancel_request`. -/
  | cancelRequest
  deriving DecidableEq, Repr

/-- The primitives that end a response. -/
def Primitive.Terminal : Primitive → Bool
  | .sendReply _ | .sendError _ | .sendReplyEnd => true
  | _ => false

/-- `cb::IPAddress`: a host text, an IPv4 address and a port. -/
structure IPAddress where
  host : String
  ip : UInt32
  port : UInt16
  deriving DecidableEq, Repr

/-- The request object, its exchange, the transport and the object's lifetime. -/
structure World where
  /-- `req.isSet()`: the object still holds the exchange handle. -/
  req : Bool
  deallocate : Bool
  finalized : Bool
  /-- What `guessContentType` finds for the extension of the object's `uri`. -/
  guessedType : Option String
  clientIP : Option IPAddress
  /-- The exchange's input headers. -/
  inputHeaders : Headers
  /-- The exchange's output headers. -/
  outputHeaders : Headers
  /-- The exchange's output buffer. -/
  outputBuffer : Bytes
  /-- The exchange's HTTP version, `req->major` and `req->minor`. -/
  version : Nat × Nat
  /-- The transport has not freed the exchange. -/
  handleLive : Bool
  /-- `free_cb` is registered as the exchange's on-free callback. -/
  callback : Bool
  /-- The connection is gone (`req->evcon` is null). -/
  connectionLost : Bool
  /-- The exchange came in on a server connection (`EVHTTP_CON_INCOMING`), not the object's
  own `incoming` member. -/
  incomingConnection : Bool
  /-- The primitives the transport received, oldest first. -/
  trace : List Primitive
  /-- How many times the exchange was freed. -/
  frees : Nat
  /-- Strong references the application holds. -/
  appRefs : Nat
  /-- The self reference `init()` took is outstanding. -/
  selfRef : Bool
  /-- The object's memory has been given back. -/
  destroyed : Bool
  /-- How many times `~Request` ran. -/
  destructions : Nat
  /-- Reads and writes of the object's fields after it was destroyed. -/
  staleAccesses : Nat
  /-- Runs of `free_cb` on a destroyed object. -/
  staleCallbacks : Nat
  deriving DecidableEq, Repr

/-- A method of the request: it may raise, and its effects up to the raise stay. -/
abbrev RequestM := EStateM Error World

/-- The state a method leaves, whether it returned or raised. -/
def finalState {ε σ α : Type} : EStateM.Result ε σ α → σ
  | .ok _ state => state
  | .error _ state => state

@[simp] theorem finalState_ok {ε σ α : Type} (a : α) (state : σ) :
    finalState (.ok a state : EStateM.Result ε σ α) = state := rfl

@[simp] theorem finalState_error {ε σ α : Type} (e : ε) (state : σ) :
    finalState (.error e state : EStateM.Result ε σ α) = state := rfl

/-- The world after one more read or write of a field of the object: a use after free once
the object has been destroyed. -/
def World.touched (world : World) : World :=
  { world with staleAccesses := world.staleAccesses + world.destroyed.toNat }

namespace Request

/-! ## Fields of the object and of the exchange -/

/-- A read or write of a field of the object. -/
def touch : RequestM Unit :=
  modify World.touched

/-- `req.access()`: the handle, or a raise once `req` has been released. -/
def access : RequestM Unit := do
  touch
  if (← get).req then pure () else throw .nullPointer

/-- Read `finalized`. -/
def getFinalized : RequestM Bool := do
  touch
  return (← get).finalized

/-- `finalized = true`. -/
def setFinalized : RequestM Unit := do
  touch
  modify fun world => { world with finalized := true }

/-- `getOutputHeaders()`. -/
def getOutputHeaders : RequestM Headers := do
  access
  return (← get).outputHeaders

/-- A change of the output headers through `getOutputHeaders()`. -/
def modifyOutputHeaders (change : Headers → Headers) : RequestM Unit := do
  access
  modify fun world => { world with outputHeaders := change world.outputHeaders }

/-- `getInputHeaders()`. -/
def getInputHeaders : RequestM Headers := do
  access
  return (← get).inputHeaders

/-- A change of the output buffer through `getOutputBuffer()`. -/
def modifyOutputBuffer (change : Bytes → Bytes) : RequestM Unit := do
  access
  modify fun world => { world with outputBuffer := change world.outputBuffer }

/-- `getVersion()`, from `req->major` and `req->minor`. -/
def getVersion : RequestM (Nat × Nat) := do
  access
  return (← get).version

theorem getFinalized_eq (world : World) :
    getFinalized world = .ok world.finalized world.touched :=
  rfl

theorem getOutputHeaders_of_req {world : World} (held : world.req = true) :
    getOutputHeaders world = .ok world.outputHeaders world.touched := by
  obtain ⟨⟩ := world
  cases held
  rfl

theorem getInputHeaders_of_req {world : World} (held : world.req = true) :
    getInputHeaders world = .ok world.inputHeaders world.touched := by
  obtain ⟨⟩ := world
  cases held
  rfl

theorem getVersion_of_req {world : World} (held : world.req = true) :
    getVersion world = .ok world.version world.touched := by
  obtain ⟨⟩ := world
  cases held
  rfl

/-! ## Release of the exchange and of the object -/

/-- Record a primitive the transport receives. -/
def emit (primitive : Primitive) : RequestM Unit :=
  modify fun world => { world with trace := world.trace ++ [primitive] }

/-- The transport frees the exchange.  When `free_cb` is registered it runs `onFree` on the
object it points to, which may already be destroyed. -/
def freeExchange (onFree : RequestM Unit) : RequestM Unit := do
  modify fun world => { world with handleLive := false, frees := world.frees + 1 }
  if (← get).callback then
    modify fun world =>
      { world with staleCallbacks := world.staleCallbacks + world.destroyed.toNat }
    onFree

/-- `evhttp_cancel_request`.  On an outgoing exchange, or once the connection is gone, libevent
frees the exchange inside the call; an incoming exchange on a live connection it answers with
`400` itself (`evhttp_connection_incoming_fail`) and frees once that reply is written. -/
def cancelExchange (onFree : RequestM Unit) : RequestM Unit := do
  access
  emit .cancelRequest
  let world ← get
  if world.connectionLost || !world.incomingConnection then freeExchange onFree

/-- The last reference is gone: `Request::~Request`, then the memory is given back.  The
destructor clears the callback before it cancels, so the cancel runs no callback. -/
def destroy : RequestM Unit := do
  touch
  if (← get).req then
    access
    modify fun world => { world with callback := false }
    touch
    if (← get).deallocate then cancelExchange (pure ())
  modify fun world => { world with destroyed := true, destructions := world.destructions + 1 }

/-- `SmartPointer<Request>::SelfRef::selfDeref()`: drop the self reference; when it was the
last reference the object is destroyed. -/
def selfDeref : RequestM Unit := do
  touch
  let before ← get
  modify fun world => { world with selfRef := false }
  if before.selfRef ∧ before.appRefs = 0 then destroy

/-- `Request::freed()`, run by `free_cb`: release `req`, then drop the self reference. -/
def freed : RequestM Unit := do
  touch
  modify fun world => { world with req := false }
  selfDeref

/-! ## Transport primitives -/

/-- A response primitive on `req.access()`.  With the connection gone, `evhttp_send` frees
the exchange inside a reply, an error or the end of a chunked reply, while
`evhttp_send_reply_start` and `evhttp_send_reply_chunk` return at once. -/
def transportSend (primitive : Primitive) : RequestM Unit := do
  access
  emit primitive
  if (← get).connectionLost && primitive.Terminal then freeExchange freed

/-- `evhttp_send_reply(req.access(), code, reason, body)`: the body joins the output. -/
def evhttpSendReply (code : Int) (body : Bytes) : RequestM Unit := do
  modifyOutputBuffer (· ++ body)
  transportSend (.sendReply code)

/-- `evhttp_send_error`. -/
def evhttpSendError (code : Int) : RequestM Unit :=
  transportSend (.sendError code)

/-- `evhttp_send_reply_start`. -/
def evhttpSendReplyStart (code : Int) : RequestM Unit :=
  transportSend (.sendReplyStart code)

/-- `evhttp_send_reply_chunk`. -/
def evhttpSendReplyChunk (chunk : Bytes) : RequestM Unit :=
  transportSend (.sendReplyChunk chunk)

/-- `evhttp_send_reply_end`. -/
def evhttpSendReplyEnd : RequestM Unit :=
  transportSend .sendReplyEnd

/-- `evhttp_cancel_request` on the request's exchange, whose free runs `free_cb`. -/
def evhttpCancelRequest : RequestM Unit :=
  cancelExchange freed

end Request

end CbangEvent
