import CbangEvent.World

/-!
# The methods of `Request`

Each definition follows one method of `Request.cpp`, statement by statement.  Overloads that
only convert their argument to a buffer (`send`, `sendChunk`, the `reply` forms taking data
and a length) are one definition over `Bytes`; overloads with a different body keep their
own definition.  What the library computes for the request (the `Set-Cookie` text of a
`Cookie`, the rendered time of `setCache`, the contents of a file) is taken as an argument.
-/

namespace CbangEvent

namespace Request

/-- `code ? code : HTTP_INTERNAL_SERVER_ERROR`. -/
def errorCode (code : Int) : Int :=
  if code = 0 then 500 else code

/-! ## Output headers and buffer -/

/-- `Request::resetOutput`. -/
def resetOutput : RequestM Unit := do
  if ← getFinalized then
    throw (.exception "Cannot reset output after Request has been finalized")
  modifyOutputBuffer fun _ => []

/-- `Request::outAdd`. -/
def outAdd (name value : String) : RequestM Unit :=
  modifyOutputHeaders (·.add name value)

/-- `Request::outSet`. -/
def outSet (name value : String) : RequestM Unit :=
  modifyOutputHeaders (·.set name value)

/-- `Request::outRemove`. -/
def outRemove (name : String) : RequestM Unit :=
  modifyOutputHeaders (·.remove name)

/-- `Request::hasContentType`. -/
def hasContentType : RequestM Bool := do
  return (← getOutputHeaders).hasContentType

/-- `Request::setContentType`. -/
def setContentType (contentType : String) : RequestM Unit :=
  modifyOutputHeaders (·.setContentType contentType)

/-- `Request::guessContentType`: the content type of the URI's extension, when there is
one. -/
def guessContentType : RequestM Unit := do
  access
  touch
  match (← get).guessedType with
  | some contentType => modifyOutputHeaders (·.setContentType contentType)
  | none => pure ()

/-- `Version`'s order: major, then minor. -/
def versionBelow (version bound : Nat × Nat) : Bool :=
  version.1 < bound.1 || (version.1 == bound.1 && version.2 < bound.2)

/-- `Request::setPersistent`. -/
def setPersistent (persistent : Bool) : RequestM Unit := do
  if versionBelow (← getVersion) (1, 1) then
    if persistent then outSet "Connection" "Keep-Alive" else outRemove "Connection"
  else if persistent then outRemove "Connection"
  else outSet "Connection" "close"

/-- `Request::setCookie`, given the `Set-Cookie` text `HTTP::Cookie::toString` renders. -/
def setCookie (cookie : String) : RequestM Unit :=
  outAdd "Set-Cookie" cookie

/-- `Request::setCache`, given the current time and the time `age` seconds later as the
library renders them. -/
def setCache (age : Nat) (now later : String) : RequestM Unit := do
  outSet "Date" now
  if age ≠ 0 then
    outSet "Cache-Control" ("max-age=" ++ toString age)
    outSet "Expires" later
  else
    outSet "Cache-Control" "max-age=0, no-cache, no-store"
    outSet "Expires" now

/-- `Request::outSetContentEncoding`. -/
def outSetContentEncoding (compression : Compression) : RequestM Unit :=
  match compression with
  | .zlib | .gzip | .bzip2 =>
      outSet "Content-Encoding" ((getContentEncoding compression).getD "")
  | _ => pure ()

/-- `Request::send`, all overloads: the bytes join the output buffer. -/
def send (data : Bytes) : RequestM Unit :=
  modifyOutputBuffer (· ++ data)

/-- `Request::sendFile`, given the file's contents. -/
def sendFile (contents : Bytes) : RequestM Unit :=
  modifyOutputBuffer (· ++ contents)

/-! ## Compressed output streams -/

/-- A stream `compressBufferStream` builds over a buffer: the codec of the filter in front of
the buffer, `none` for the buffer's own stream, and the bytes written to it that have not
reached the buffer yet. -/
structure OutputStream where
  filter : Option Compression
  pending : Bytes
  deriving DecidableEq, Repr

/-- `compressBufferStream`: a zlib, gzip or bzip2 filter, or the plain buffer stream. -/
def compressBufferStream (compression : Compression) : OutputStream :=
  match compression with
  | .zlib | .gzip | .bzip2 => ⟨some compression, []⟩
  | _ => ⟨none, []⟩

/-- `if (compression == COMPRESS_AUTO) compression = getRequestedCompression();`: the
Accept-Encoding negotiation over the input headers, which raises what it raises. -/
def resolveCompression (parseDouble : List Char → Except Error ℚ) (compression : Compression) :
    RequestM Compression :=
  if compression = .auto then do
    match Negotiation.getRequestedCompression parseDouble (← getInputHeaders) with
    | .ok requested => pure requested
    | .error e => throw e
  else pure compression

/-- `Request::getOutputStream`. -/
def getOutputStream (parseDouble : List Char → Except Error ℚ) (compression : Compression) :
    RequestM OutputStream := do
  let compression ← resolveCompression parseDouble compression
  outSetContentEncoding compression
  access
  return compressBufferStream compression

/-! ## Finalizing and replying -/

/-- `if (!hasContentType()) guessContentType();` in `finalize`. -/
def contentTypeFallback : RequestM Unit := do
  if !(← hasContentType) then guessContentType

/-- `Request::finalize`.  The log lines after it only read. -/
def finalize : RequestM Unit := do
  if ← getFinalized then throw (.exception "Request already finalized")
  setFinalized
  contentTypeFallback

/-- `Request::reply(int code)`. -/
def reply (code : Int) : RequestM Unit := do
  finalize
  evhttpSendReply code []

/-- `Request::reply(int code, const Buffer &)` and the forms taking data and a length;
`reply(buf)` and `reply(data, length)` are this with `HTTP_OK`. -/
def replyWithBuffer (code : Int) (body : Bytes) : RequestM Unit := do
  finalize
  evhttpSendReply code body

/-- `Request::reply(int code, const string &)`. -/
def replyWithString (code : Int) (text : Bytes) : RequestM Unit := do
  send text
  reply code

/-- `Request::sendError(int code)`. -/
def sendError (code : Int) : RequestM Unit := do
  finalize
  evhttpSendError (errorCode code)

/-- `Request::sendError(int code, const string &message)`. -/
def sendErrorWithMessage (code : Int) (message : Bytes) : RequestM Unit := do
  resetOutput
  setContentType "text/plain"
  send message
  sendError code

/-- `Request::startChunked`. -/
def startChunked (code : Int) : RequestM Unit :=
  evhttpSendReplyStart code

/-- `Request::sendChunk`, all overloads. -/
def sendChunk (chunk : Bytes) : RequestM Unit :=
  evhttpSendReplyChunk chunk

/-- `Request::endChunked`. -/
def endChunked : RequestM Unit := do
  finalize
  evhttpSendReplyEnd

/-- `Request::redirect`. -/
def redirect (location : String) (code : Int) : RequestM Unit := do
  outSet "Location" location
  outSet "Content-Length" "0"
  replyWithBuffer code []

/-- `Request::cancel`. -/
def cancel : RequestM Unit := do
  evhttpCancelRequest
  setFinalized

/-! ## Construction and references -/

/-- The world in which the transport hands a live incoming exchange to `new Request`: nothing
has been sent, no callback is registered and nothing refers to the object yet. -/
def delivered (inputHeaders : Headers) (version : Nat × Nat) (deallocate : Bool) : World where
  req := true
  deallocate := deallocate
  finalized := false
  guessedType := none
  clientIP := none
  inputHeaders := inputHeaders
  outputHeaders := ⟨[]⟩
  outputBuffer := []
  version := version
  handleLive := true
  callback := false
  connectionLost := false
  incomingConnection := true
  trace := []
  frees := 0
  appRefs := 0
  selfRef := false
  destroyed := false
  destructions := 0
  staleAccesses := 0
  staleCallbacks := 0

/-- `Request::init()`: register `free_cb` on the handle and take the self reference. -/
def init : RequestM Unit := do
  access
  modify fun world => { world with callback := true }
  touch
  modify fun world => { world with selfRef := true }

/-- `Request::Request(evhttp_request *req, bool deallocate)`, given the outcome of the URI
parse (the content type `guessContentType` finds for the parsed URI's extension) and, when
the request has a connection, of `Connection::getPeer`.  The log lines at the end only
read. -/
def construct (uri : Except Error (Option String)) (peer : Option (Except Error IPAddress)) :
    RequestM Unit := do
  touch
  if !(← get).req then throw (.exception "Event request cannot be null")
  init
  match uri with
  | .ok guessed =>
      touch
      modify fun world => { world with guessedType := guessed }
  | .error e => throw e
  match peer with
  | none => pure ()
  | some (.ok address) =>
      touch
      modify fun world => { world with clientIP := some address }
  | some (.error e) => throw e

/-- `new Request(req, deallocate)`: when the constructor raises, the memory is given back
without `~Request` running. -/
def newRequest (uri : Except Error (Option String)) (peer : Option (Except Error IPAddress)) :
    RequestM Unit := fun world =>
  match construct uri peer world with
  | .ok () world' => .ok () world'
  | .error e world' => .error e { world' with destroyed := true }

/-- `Request::Request(evhttp_request *req, const URI &uri, bool deallocate)`, given the content
type `guessContentType` finds for the URI's extension and the address
`clientIP(uri.getHost(), uri.getPort())` holds.  The member initializers run before the body,
whose null check comes before `init()`. -/
def constructWithURI (guessed : Option String) (address : IPAddress) : RequestM Unit := do
  touch
  modify fun world => { world with guessedType := guessed, clientIP := some address }
  if !(← get).req then throw (.exception "Event request cannot be null")
  init

/-- `new Request(req, uri, deallocate)`: when the constructor raises, the memory is given back
without `~Request` running. -/
def newRequestWithURI (guessed : Option String) (address : IPAddress) : RequestM Unit :=
  fun world =>
    match constructWithURI guessed address world with
    | .ok () world' => .ok () world'
    | .error e world' => .error e { world' with destroyed := true }

/-- A `SmartPointer<Request>` of the application goes away; the last reference destroys
the object. -/
def dropReference : RequestM Unit := do
  let before ← get
  modify fun world => { world with appRefs := world.appRefs - 1 }
  if before.appRefs = 1 ∧ before.selfRef = false then destroy

end Request

end CbangEvent
