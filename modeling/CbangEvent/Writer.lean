import CbangEvent.Request

/-!
# The structured writers

`getJSONWriter`, `getJSONPWriter` and `getJSONChunkWriter` return a `JSONWriter`: an object
that is at once an `Event::Buffer`, the `SmartPointer<ostream>` of the stream
`compressBufferStream` builds over that buffer, and a `JSON::Writer` on that stream.  Its
`close()` releases the stream, which delivers the (compressed) bytes into the buffer, and
hands the buffer to `send`, which moves its bytes into the response output or into one
chunk.  The JSONP writer overrides `close()` to write `)` first; the chunked writer overrides
`send`.

Calls are virtual except inside the base destructor `~JSONWriter`, where the object is a
`JSONWriter` again: the destructor runs `JSONWriter::close` with `JSONWriter::send`, whatever
the writer was.  The serializer (`JSON::Writer`) and the compression filters belong to the
library: the serializer's text is taken as given, and the filters as a function `encode`.
-/

namespace CbangEvent

/-- The class of a `JSONWriter` object. -/
inductive WriterKind
  /-- `JSONWriter` itself, from `getJSONWriter`. -/
  | plain
  /-- The `Writer` of `getJSONPWriter`. -/
  | jsonp
  /-- The `Writer` of `getJSONChunkWriter`. -/
  | chunked
  deriving DecidableEq, Repr

/-- A `JSONWriter` object. -/
structure JSONWriter where
  kind : WriterKind
  /-- The `Event::Buffer` base. -/
  buffer : Bytes
  /-- The `SmartPointer<ostream>` base; `none` once released. -/
  stream : Option Request.OutputStream
  deriving DecidableEq, Repr

/-- A method of a writer: it acts on the request and on the writer object. -/
abbrev WriterM := EStateM Error (World × JSONWriter)

namespace JSONWriter

variable (encode : Compression → Bytes → Bytes)

/-- A request method called from a writer method. -/
def lift {α : Type} (method : RequestM α) : WriterM α := fun (world, writer) =>
  match method world with
  | .ok a world' => .ok a (world', writer)
  | .error e world' => .error e (world', writer)

/-- What a stream delivers to its buffer when it is destroyed: a filter compresses the bytes
written to it, the plain stream passes them on. -/
def delivered (stream : Request.OutputStream) : Bytes :=
  match stream.filter with
  | some codec => encode codec stream.pending
  | none => stream.pending

/-- `getStream() << text`; the stream pointer is null once released. -/
def write (text : Bytes) : WriterM Unit := fun (world, writer) =>
  match writer.stream with
  | some stream =>
      .ok () (world, { writer with stream := some { stream with pending := stream.pending ++ text } })
  | none => .error .nullDereference (world, writer)

/-- `JSON::Writer::close()`: for a complete value nothing is left to write. -/
def closeSerializer : WriterM Unit :=
  pure ()

/-- `SmartPointer<ostream>::release()`: the stream is destroyed and delivers its bytes into
the writer's buffer; on a released pointer nothing happens. -/
def releaseStream : WriterM Unit :=
  modify fun (world, writer) =>
    match writer.stream with
    | some stream =>
        (world, { writer with buffer := writer.buffer ++ delivered encode stream, stream := none })
    | none => (world, writer)

/-- `JSONWriter::send`: `req.send(buffer)`, which moves the buffer's bytes into the output. -/
def sendToOutput : WriterM Unit := do
  lift (Request.send (← get).2.buffer)
  modify fun (world, writer) => (world, { writer with buffer := [] })

/-- The `send` of the chunked writer: `req.sendChunk(buffer)`, which moves the buffer's
bytes into one chunk. -/
def sendAsChunk : WriterM Unit := do
  lift (Request.sendChunk (← get).2.buffer)
  modify fun (world, writer) => (world, { writer with buffer := [] })

/-- `send(*this)` by virtual dispatch. -/
def send : WriterKind → WriterM Unit
  | .chunked => sendAsChunk
  | _ => sendToOutput

/-- `JSONWriter::close`, making the call `send` for `send(*this)`. -/
def closeWith (send : WriterM Unit) : WriterM Unit := do
  closeSerializer
  releaseStream encode
  send

/-- `close()` by virtual dispatch. -/
def close : WriterM Unit := do
  match (← get).2.kind with
  | .jsonp =>
      closeSerializer
      write [')']
      closeWith encode (send .jsonp)
  | kind => closeWith encode (send kind)

/-- `~JSONWriter() {TRY_CATCH_ERROR(close(););}`: `JSONWriter::close` with
`JSONWriter::send`, and nothing it raises escapes. -/
def destroy : WriterM Unit := fun state =>
  match closeWith encode sendToOutput state with
  | .ok _ state' => .ok () state'
  | .error _ state' => .ok () state'

/-- The `JSONWriter` constructor: an empty buffer, the stream over it, then
`req.outSetContentEncoding(compression)`. -/
def create (kind : WriterKind) (compression : Compression) : RequestM JSONWriter := do
  Request.outSetContentEncoding compression
  return ⟨kind, [], some (Request.compressBufferStream compression)⟩

/-- Run a writer method on a writer from a request method, giving back the writer. -/
def within (writer : JSONWriter) (method : WriterM Unit) : RequestM JSONWriter := fun world =>
  match method (world, writer) with
  | .ok _ (world', writer') => .ok writer' world'
  | .error e (world', _) => .error e world'

/-- A writer held by a local `SmartPointer`: the body runs, then the writer is destroyed
whether the body returned or raised. -/
def withLocal (writer : JSONWriter) (body : WriterM Unit) : RequestM Unit := fun world =>
  match body (world, writer) with
  | .ok _ state => .ok () (match destroy encode state with
      | .ok _ (world', _) => world'
      | .error _ (world', _) => world')
  | .error e state => .error e (match destroy encode state with
      | .ok _ (world', _) => world'
      | .error _ (world', _) => world')

end JSONWriter

namespace Request

/-- `Request::getJSONWriter(compression)`: it reads `pretty` from the URI for the layout and
calls `getJSONWriter(indent, compact, compression)`. -/
def getJSONWriter (compression : Compression) : RequestM JSONWriter := do
  touch
  resetOutput
  setContentType "application/json"
  JSONWriter.create .plain compression

/-- `Request::getJSONPWriter`: the writer's constructor writes `callback(`. -/
def getJSONPWriter (callback : Bytes) : RequestM JSONWriter := do
  resetOutput
  setContentType "application/javascript"
  let writer ← JSONWriter.create .jsonp .none
  JSONWriter.within writer (JSONWriter.write (callback ++ ['(']))

/-- `Request::getJSONChunkWriter`. -/
def getJSONChunkWriter : RequestM JSONWriter :=
  JSONWriter.create .chunked .none

/-- `Request::sendJSONError`, given the text the serializer writes for `["error", message]`.
`getJSONWriter()` takes the header's default compression, which `JSONWriter` treats as
`COMPRESS_NONE` whether it is `NONE` or `AUTO`. -/
def sendJSONError (encode : Compression → Bytes → Bytes) (code : Int) (rendered : Bytes) :
    RequestM Unit := do
  let writer ← getJSONWriter .none
  JSONWriter.withLocal encode writer do
    JSONWriter.write rendered
    JSONWriter.close encode
    JSONWriter.lift (reply (errorCode code))

end Request

end CbangEvent
