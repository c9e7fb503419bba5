import CbangEvent.Guarantee

/-!
# Runs of a request

The application calls methods on a request, takes and drops `SmartPointer` references to
it, and the transport frees the exchange or loses the connection; a run is any sequence of
these steps.  A call runs to its end or to a raise; the application goes on either way.
Writer calls act on a writer object in any state the application may hold.
-/

namespace CbangEvent

/-- A method the application calls. -/
inductive Call
  | send (data : Bytes)
  | sendFile (contents : Bytes)
  | outAdd (name value : String)
  | outSet (name value : String)
  | outRemove (name : String)
  | setContentType (contentType : String)
  | setCookie (cookie : String)
  | setCache (age : Nat) (now later : String)
  | setPersistent (persistent : Bool)
  | resetOutput
  | getOutputStream (compression : Compression)
  | getJSONWriter (compression : Compression)
  | getJSONPWriter (callback : Bytes)
  | getJSONChunkWriter
  | writerWrite (writer : JSONWriter) (text : Bytes)
  | writerClose (writer : JSONWriter)
  | writerDestroy (writer : JSONWriter)
  | reply (code : Int)
  | replyWithBuffer (code : Int) (body : Bytes)
  | replyWithString (code : Int) (text : Bytes)
  | sendError (code : Int)
  | sendErrorWithMessage (code : Int) (message : Bytes)
  | sendJSONError (code : Int) (rendered : Bytes)
  | startChunked (code : Int)
  | sendChunk (chunk : Bytes)
  | endChunked
  | redirect (location : String) (code : Int)
  | cancel

/-- A step of a run. -/
inductive Step
  /-- The application calls a method. -/
  | call (call : Call)
  /-- The application takes a `SmartPointer` to the request. -/
  | acquire
  /-- The application drops one of its `SmartPointer`s. -/
  | drop
  /-- The transport frees the exchange. -/
  | transportFree
  /-- The connection goes away. -/
  | loseConnection

variable (parseDouble : List Char → Except Error ℚ) (encode : Compression → Bytes → Bytes)

namespace Call

/-- What a call does; the value it returns is dropped. -/
def run : Call → RequestM Unit
  | .send data => Request.send data
  | .sendFile contents => Request.sendFile contents
  | .outAdd name value => Request.outAdd name value
  | .outSet name value => Request.outSet name value
  | .outRemove name => Request.outRemove name
  | .setContentType contentType => Request.setContentType contentType
  | .setCookie cookie => Request.setCookie cookie
  | .setCache age now later => Request.setCache age now later
  | .setPersistent persistent => Request.setPersistent persistent
  | .resetOutput => Request.resetOutput
  | .getOutputStream compression => discard (Request.getOutputStream parseDouble compression)
  | .getJSONWriter compression => discard (Request.getJSONWriter compression)
  | .getJSONPWriter callback => discard (Request.getJSONPWriter callback)
  | .getJSONChunkWriter => discard Request.getJSONChunkWriter
  | .writerWrite writer text => discard (JSONWriter.within writer (JSONWriter.write text))
  | .writerClose writer => discard (JSONWriter.within writer (JSONWriter.close encode))
  | .writerDestroy writer => discard (JSONWriter.within writer (JSONWriter.destroy encode))
  | .reply code => Request.reply code
  | .replyWithBuffer code body => Request.replyWithBuffer code body
  | .replyWithString code text => Request.replyWithString code text
  | .sendError code => Request.sendError code
  | .sendErrorWithMessage code message => Request.sendErrorWithMessage code message
  | .sendJSONError code rendered => Request.sendJSONError encode code rendered
  | .startChunked code => Request.startChunked code
  | .sendChunk chunk => Request.sendChunk chunk
  | .endChunked => Request.endChunked
  | .redirect location code => Request.redirect location code
  | .cancel => Request.cancel

end Call

namespace Step

/-- What a step does to the world. -/
def run : Step → World → World
  | .call method, world => finalState (method.run parseDouble encode world)
  | .acquire, world => { world with appRefs := world.appRefs + 1 }
  | .drop, world => finalState (Request.dropReference world)
  | .transportFree, world =>
      if world.handleLive then finalState (Request.freeExchange Request.freed world) else world
  | .loseConnection, world => { world with connectionLost := true }

end Step

/-! ## Methods from primitives

Each lemma composes a method's guarantee from those of the statements of its body, in their
order, so that what the primitives keep every method keeps. -/

section Methods

variable {R : World → World → Prop} [IsRefl World R] [IsTrans World R]
  (touching : Guarantee R Request.touch)
  (changing : ∀ change, Guarantee R (Request.modifyOutputHeaders change))
  (writing : ∀ change, Guarantee R (Request.modifyOutputBuffer change))

include touching in
theorem Guarantee.access : Guarantee R Request.access :=
  Guarantee.bind touching fun _ => Guarantee.bind Guarantee.get fun _ =>
    Guarantee.ite (Guarantee.pure _) (Guarantee.throw _)

include touching in
theorem Guarantee.getFinalized : Guarantee R Request.getFinalized :=
  Guarantee.bind touching fun _ => Guarantee.bind Guarantee.get fun _ => Guarantee.pure _

include touching in
/-- A field of the exchange read through `req.access()`. -/
theorem Guarantee.readExchange {α : Type} (field : World → α) :
    Guarantee R (do Request.access; return field (← MonadState.get)) :=
  Guarantee.bind (Guarantee.access touching) fun _ =>
    Guarantee.bind Guarantee.get fun _ => Guarantee.pure _

include touching changing in
theorem Guarantee.guessContentType : Guarantee R Request.guessContentType :=
  Guarantee.bind (Guarantee.access touching) fun _ => Guarantee.bind touching fun _ =>
    Guarantee.bind Guarantee.get fun world => by
      cases world.guessedType
      exacts [Guarantee.pure _, changing _]

include touching changing in
theorem Guarantee.contentTypeFallback : Guarantee R Request.contentTypeFallback :=
  Guarantee.bind
    (Guarantee.bind (Guarantee.readExchange touching World.outputHeaders) fun _ =>
      Guarantee.pure _)
    fun _ => Guarantee.ite (Guarantee.guessContentType touching changing) (Guarantee.pure _)

include touching changing in
theorem Guarantee.finalize (setting : Guarantee R Request.setFinalized) :
    Guarantee R Request.finalize :=
  have rest : Guarantee R (do Request.setFinalized; Request.contentTypeFallback) :=
    Guarantee.bind setting fun _ => Guarantee.contentTypeFallback touching changing
  Guarantee.bind (Guarantee.getFinalized touching) fun _ =>
    Guarantee.ite (Guarantee.bind (Guarantee.throw _) fun _ => rest)
      (Guarantee.bind (Guarantee.pure _) fun _ => rest)

include touching writing in
theorem Guarantee.resetOutput : Guarantee R Request.resetOutput :=
  Guarantee.bind (Guarantee.getFinalized touching) fun _ =>
    Guarantee.ite (Guarantee.bind (Guarantee.throw _) fun _ => writing _)
      (Guarantee.bind (Guarantee.pure _) fun _ => writing _)

omit [IsRefl World R] in
include changing in
theorem Guarantee.setCache (age : Nat) (now later : String) :
    Guarantee R (Request.setCache age now later) :=
  Guarantee.bind (changing _) fun _ =>
    Guarantee.ite (Guarantee.bind (changing _) fun _ => changing _)
      (Guarantee.bind (changing _) fun _ => changing _)

include touching changing in
theorem Guarantee.setPersistent (persistent : Bool) :
    Guarantee R (Request.setPersistent persistent) :=
  Guarantee.bind (Guarantee.readExchange touching World.version) fun _ =>
    Guarantee.ite (Guarantee.ite (changing _) (changing _))
      (Guarantee.ite (changing _) (changing _))

omit [IsTrans World R] in
include changing in
theorem Guarantee.outSetContentEncoding (compression : Compression) :
    Guarantee R (Request.outSetContentEncoding compression) := by
  unfold Request.outSetContentEncoding
  split
  exacts [changing _, changing _, changing _, Guarantee.pure _]

include touching changing in
theorem Guarantee.getOutputStream (compression : Compression) :
    Guarantee R (Request.getOutputStream parseDouble compression) :=
  Guarantee.bind resolving fun _ =>
    Guarantee.bind (Guarantee.outSetContentEncoding changing _) fun _ =>
      Guarantee.bind (Guarantee.access touching) fun _ => Guarantee.pure _
where
  resolving : Guarantee R (Request.resolveCompression parseDouble compression) :=
    Guarantee.ite
      (Guarantee.bind (Guarantee.readExchange touching World.inputHeaders) fun _ => by
        split
        exacts [Guarantee.pure _, Guarantee.throw _])
      (Guarantee.pure _)

include changing in
theorem JSONWriter.guarantee_create (kind : WriterKind) (compression : Compression) :
    Guarantee R (JSONWriter.create kind compression) :=
  Guarantee.bind (Guarantee.outSetContentEncoding changing _) fun _ => Guarantee.pure _

include touching changing writing in
theorem Guarantee.getJSONWriter (compression : Compression) :
    Guarantee R (Request.getJSONWriter compression) :=
  Guarantee.bind touching fun _ => Guarantee.bind (Guarantee.resetOutput touching writing)
    fun _ => Guarantee.bind (changing _) fun _ => JSONWriter.guarantee_create changing _ _

include touching changing writing in
theorem Guarantee.getJSONPWriter (callback : Bytes) :
    Guarantee R (Request.getJSONPWriter callback) :=
  Guarantee.bind (Guarantee.resetOutput touching writing) fun _ =>
    Guarantee.bind (changing _) fun _ =>
      Guarantee.bind (JSONWriter.guarantee_create changing _ _) fun _ =>
        JSONWriter.guarantee_within (JSONWriter.guarantee_write _)

include touching in
/-- `evhttp_cancel_request` from the request: `req.access()`, the cancel, and the free libevent
makes inside the call when it makes one. -/
theorem Guarantee.cancelExchange {onFree : RequestM Unit}
    (cancelling : Guarantee R (Request.emit .cancelRequest))
    (freeing : Guarantee R (Request.freeExchange onFree)) :
    Guarantee R (Request.cancelExchange onFree) :=
  Guarantee.bind (Guarantee.access touching) fun _ => Guarantee.bind cancelling fun _ =>
    Guarantee.bind Guarantee.get fun _ => Guarantee.ite freeing (Guarantee.pure _)

include touching in
/-- `~Request` keeps what its reads, the cleared callback, its cancel and the end of the
object keep. -/
theorem Guarantee.destroy (clearing : ∀ world, R world { world with callback := false })
    (cancelling : Guarantee R (Request.cancelExchange (Pure.pure ())))
    (ending : ∀ world,
      R world { world with destroyed := true, destructions := world.destructions + 1 }) :
    Guarantee R Request.destroy :=
  Guarantee.bind touching fun _ => Guarantee.bind Guarantee.get fun _ =>
    Guarantee.ite
      (Guarantee.bind (Guarantee.access touching) fun _ =>
        Guarantee.bind (Guarantee.modify clearing) fun _ => Guarantee.bind touching fun _ =>
          Guarantee.bind Guarantee.get fun _ =>
            Guarantee.ite (Guarantee.bind cancelling fun _ => Guarantee.modify ending)
              (Guarantee.bind (Guarantee.pure _) fun _ => Guarantee.modify ending))
      (Guarantee.bind (Guarantee.pure _) fun _ => Guarantee.modify ending)

end Methods

/-- Guarantees of the primitives every method of the request is built from.  A terminal
primitive comes with the `finalize` that precedes it in every method that sends one. -/
structure Primitives (R : World → World → Prop) : Prop where
  touch : Guarantee R Request.touch
  setFinalized : Guarantee R Request.setFinalized
  modifyOutputHeaders : ∀ change, Guarantee R (Request.modifyOutputHeaders change)
  modifyOutputBuffer : ∀ change, Guarantee R (Request.modifyOutputBuffer change)
  evhttpSendReplyStart : ∀ code, Guarantee R (Request.evhttpSendReplyStart code)
  evhttpSendReplyChunk : ∀ chunk, Guarantee R (Request.evhttpSendReplyChunk chunk)
  evhttpCancelRequest : Guarantee R Request.evhttpCancelRequest
  finalizeSendReply : ∀ code body,
    Guarantee R (do Request.finalize; Request.evhttpSendReply code body)
  finalizeSendError : ∀ code, Guarantee R (do Request.finalize; Request.evhttpSendError code)
  finalizeSendReplyEnd : Guarantee R (do Request.finalize; Request.evhttpSendReplyEnd)

namespace Primitives

variable {R : World → World → Prop} [IsRefl World R] [IsTrans World R] (prims : Primitives R)

include prims

theorem writerClose : Guarantee (OnWorld R) (JSONWriter.close encode) :=
  JSONWriter.guarantee_close encode (fun _ => prims.modifyOutputBuffer _)
    prims.evhttpSendReplyChunk

theorem writerDestroy : Guarantee (OnWorld R) (JSONWriter.destroy encode) :=
  JSONWriter.guarantee_destroy encode
    (JSONWriter.guarantee_closeWith encode
      (JSONWriter.guarantee_sendToOutput fun _ => prims.modifyOutputBuffer _))

theorem getJSONWriter (compression : Compression) :
    Guarantee R (Request.getJSONWriter compression) :=
  Guarantee.getJSONWriter prims.touch prims.modifyOutputHeaders prims.modifyOutputBuffer _

omit [IsRefl World R] in
theorem replyWithString (code : Int) (text : Bytes) :
    Guarantee R (Request.replyWithString code text) :=
  Guarantee.bind (prims.modifyOutputBuffer _) fun _ => prims.finalizeSendReply _ _

theorem sendErrorWithMessage (code : Int) (message : Bytes) :
    Guarantee R (Request.sendErrorWithMessage code message) :=
  Guarantee.bind (Guarantee.resetOutput prims.touch prims.modifyOutputBuffer) fun _ =>
    Guarantee.bind (prims.modifyOutputHeaders _) fun _ =>
      Guarantee.bind (prims.modifyOutputBuffer _) fun _ => prims.finalizeSendError _

theorem sendJSONError (code : Int) (rendered : Bytes) :
    Guarantee R (Request.sendJSONError encode code rendered) :=
  Guarantee.bind (prims.getJSONWriter _) fun _ =>
    JSONWriter.guarantee_withLocal encode
      (Guarantee.bind (JSONWriter.guarantee_write _) fun _ =>
        Guarantee.bind (prims.writerClose encode) fun _ =>
          JSONWriter.guarantee_lift (prims.finalizeSendReply _ _))
      (prims.writerDestroy encode)

omit [IsRefl World R] in
theorem redirect (location : String) (code : Int) :
    Guarantee R (Request.redirect location code) :=
  Guarantee.bind (prims.modifyOutputHeaders _) fun _ =>
    Guarantee.bind (prims.modifyOutputHeaders _) fun _ => prims.finalizeSendReply _ _

omit [IsRefl World R] in
theorem cancel : Guarantee R Request.cancel :=
  Guarantee.bind prims.evhttpCancelRequest fun _ => prims.setFinalized

/-- Every call keeps what the primitives keep. -/
theorem call : ∀ method : Call, Guarantee R (method.run parseDouble encode)
  | .send data | .sendFile data => prims.modifyOutputBuffer (· ++ data)
  | .outAdd name value => prims.modifyOutputHeaders (·.add name value)
  | .outSet name value => prims.modifyOutputHeaders (·.set name value)
  | .outRemove name => prims.modifyOutputHeaders (·.remove name)
  | .setContentType contentType => prims.modifyOutputHeaders (·.setContentType contentType)
  | .setCookie cookie => prims.modifyOutputHeaders (·.add "Set-Cookie" cookie)
  | .setCache age now later => Guarantee.setCache prims.modifyOutputHeaders age now later
  | .setPersistent persistent =>
      Guarantee.setPersistent prims.touch prims.modifyOutputHeaders persistent
  | .resetOutput => Guarantee.resetOutput prims.touch prims.modifyOutputBuffer
  | .getOutputStream compression => Guarantee.discard
      (Guarantee.getOutputStream parseDouble prims.touch prims.modifyOutputHeaders compression)
  | .getJSONWriter compression => Guarantee.discard (prims.getJSONWriter compression)
  | .getJSONPWriter callback => Guarantee.discard
      (Guarantee.getJSONPWriter prims.touch prims.modifyOutputHeaders prims.modifyOutputBuffer
        callback)
  | .getJSONChunkWriter =>
      Guarantee.discard (JSONWriter.guarantee_create prims.modifyOutputHeaders .chunked .none)
  | .writerWrite _ text =>
      Guarantee.discard (JSONWriter.guarantee_within (JSONWriter.guarantee_write text))
  | .writerClose _ =>
      Guarantee.discard (JSONWriter.guarantee_within (prims.writerClose encode))
  | .writerDestroy _ =>
      Guarantee.discard (JSONWriter.guarantee_within (prims.writerDestroy encode))
  | .reply code => prims.finalizeSendReply code []
  | .replyWithBuffer code body => prims.finalizeSendReply code body
  | .replyWithString code text => prims.replyWithString code text
  | .sendError code => prims.finalizeSendError (Request.errorCode code)
  | .sendErrorWithMessage code message => prims.sendErrorWithMessage code message
  | .sendJSONError code rendered => prims.sendJSONError encode code rendered
  | .startChunked code => prims.evhttpSendReplyStart code
  | .sendChunk chunk => prims.evhttpSendReplyChunk chunk
  | .endChunked => prims.finalizeSendReplyEnd
  | .redirect location code => prims.redirect location code
  | .cancel => prims.cancel

end Primitives

/-- The world after a run. -/
def run (steps : List Step) (world : World) : World :=
  steps.foldl (fun world step => step.run parseDouble encode world) world

@[simp] theorem run_nil (world : World) : run parseDouble encode [] world = world := rfl

@[simp] theorem run_cons (step : Step) (steps : List Step) (world : World) :
    run parseDouble encode (step :: steps) world =
      run parseDouble encode steps (step.run parseDouble encode world) := rfl

theorem run_append (steps rest : List Step) (world : World) :
    run parseDouble encode (steps ++ rest) world =
      run parseDouble encode rest (run parseDouble encode steps world) :=
  List.foldl_append _ _ _ _

end CbangEvent
