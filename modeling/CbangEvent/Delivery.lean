import CbangEvent.ResponseHeaders

/-!
# Delivery by the structured writers and by chunks

A writer's `close()` releases its stream, which delivers the (compressed) bytes into the
writer's buffer, and moves the buffer to the variant's sink: the output buffer, or one chunk
for the chunked writer.  The destructor runs `JSONWriter::close` with `JSONWriter::send`
whatever the variant, so a JSONP writer dropped without `close()` never writes its `)` and a
chunked writer dropped without `close()` puts its bytes in the output buffer.

`startChunked` and `sendChunk` hand their primitive to the transport without reading
`finalized` or anything sent before: the order of start, chunks and end is the application's
to keep.  Only the end goes through `finalize`.
-/

namespace CbangEvent

@[simp] theorem Request.compressBufferStream_pending (compression : Compression) :
    (Request.compressBufferStream compression).pending = [] := by
  cases compression <;> rfl

namespace JSONWriter

variable (encode : Compression → Bytes → Bytes)

/-- `close()` called `closes` times. -/
def closeTimes : Nat → WriterM Unit
  | 0 => pure ()
  | closes + 1 => do close encode; closeTimes closes

/-- The bytes a writer holds: its buffer, then what its stream would deliver. -/
def held (writer : JSONWriter) : Bytes :=
  writer.buffer ++ (writer.stream.map (delivered encode)).getD []

/-- The serializer's text reaches the fresh stream `compressBufferStream` built. -/
theorem write_fresh (state : World × JSONWriter) (compression : Compression) (text : Bytes)
    (fresh : state.2.stream = some (Request.compressBufferStream compression)) :
    write text state = .ok () (state.1, { state.2 with
      stream := some ⟨(Request.compressBufferStream compression).filter, text⟩ }) := by
  obtain ⟨world, kind, buffer, stream⟩ := state
  cases fresh
  cases compression <;> rfl

/-- `JSONWriter::close` with `JSONWriter::send`: the writer's bytes move into the output. -/
theorem closeWith_sendToOutput (world : World) (handle : world.req = true)
    (writer : JSONWriter) :
    ∃ world', closeWith encode sendToOutput (world, writer) =
        .ok () (world', { writer with buffer := [], stream := none }) ∧
      world'.outputBuffer = world.outputBuffer ++ held encode writer ∧
      world'.trace = world.trace ∧ world'.req = true := by
  obtain ⟨⟩ := world
  cases handle
  obtain ⟨kind, buffer, _ | stream⟩ := writer
  · exact ⟨_, rfl, by simp [held, World.touched], rfl, rfl⟩
  · exact ⟨_, rfl, rfl, rfl, rfl⟩

theorem lift_returns {α : Type} {method : RequestM α} {world world' : World} {a : α}
    (writer : JSONWriter) (returned : method world = .ok a world') :
    lift method (world, writer) = .ok a (world', writer) := by
  simp only [lift, returned]

theorem withLocal_returns {writer : JSONWriter} {body : WriterM Unit} {world : World}
    {state : World × JSONWriter} (returned : body (world, writer) = .ok () state) :
    withLocal encode writer body world = .ok () (finalState (destroy encode state)).1 := by
  unfold withLocal
  rw [returned]
  dsimp only
  cases destroy encode state <;> rfl

/-- The destructor is `JSONWriter::close` with `JSONWriter::send`, whatever the variant. -/
theorem destroy_moves_held (world : World) (handle : world.req = true) (writer : JSONWriter) :
    (finalState (destroy encode (world, writer))).1.outputBuffer =
        world.outputBuffer ++ held encode writer ∧
      (finalState (destroy encode (world, writer))).1.trace = world.trace := by
  obtain ⟨world', closing, buffer, trace, -⟩ := closeWith_sendToOutput encode world handle writer
  simp only [destroy, closing, finalState_ok]
  exact ⟨buffer, trace⟩

/-- Once released, a plain writer's further `close()` calls send an empty buffer. -/
theorem closeTimes_released (closes : Nat) : ∀ world : World, world.req = true →
    ∃ world', closeTimes encode closes (world, ⟨.plain, [], none⟩) =
        .ok () (world', ⟨.plain, [], none⟩) ∧
      world'.outputBuffer = world.outputBuffer ∧ world'.trace = world.trace ∧
      world'.req = true := by
  induction closes with
  | zero => exact fun world handle => ⟨world, rfl, rfl, rfl, handle⟩
  | succ closes ih =>
      intro world handle
      obtain ⟨next, closing, sent, traced, handle'⟩ :=
        closeWith_sendToOutput encode world handle ⟨.plain, [], none⟩
      obtain ⟨world', rest, buffer, trace, handle''⟩ := ih next handle'
      exact ⟨world', returns_bind closing rest, by simp [buffer, sent, held], trace.trans traced,
        handle''⟩

end JSONWriter

namespace Request

variable (encode : Compression → Bytes → Bytes) {world : World}

/-- The application takes a writer from `create`, the serializer writes `text` for a complete
JSON value, and the application calls `close()` `closes` times and drops the writer. -/
def useWriter (create : RequestM JSONWriter) (text : Bytes) (closes : Nat) : RequestM Unit := do
  let writer ← create
  JSONWriter.withLocal encode writer do
    JSONWriter.write text
    JSONWriter.closeTimes encode closes

theorem getJSONWriter_returns (handle : world.req = true) (unfinalized : world.finalized = false)
    (compression : Compression) :
    ∃ opened, getJSONWriter compression world =
        .ok ⟨.plain, [], some (compressBufferStream compression)⟩ opened ∧
      opened.outputBuffer = [] ∧ opened.trace = world.trace ∧ opened.req = true := by
  obtain ⟨⟩ := world
  cases handle
  cases unfinalized
  cases compression <;> exact ⟨_, rfl, rfl, rfl, rfl⟩

/-- The plain writer delivers what its stream makes of the serializer's text to the output
buffer once, however many times it is closed before it is dropped. -/
theorem useWriter_getJSONWriter (handle : world.req = true)
    (unfinalized : world.finalized = false) (compression : Compression) (text : Bytes)
    (closes : Nat) :
    ∃ world', useWriter encode (getJSONWriter compression) text closes world = .ok () world' ∧
      world'.outputBuffer =
        JSONWriter.delivered encode ⟨(compressBufferStream compression).filter, text⟩ ∧
      world'.trace = world.trace := by
  obtain ⟨opened, creating, emptied, traced, handle'⟩ :=
    getJSONWriter_returns handle unfinalized compression
  have writing := JSONWriter.write_fresh (opened, ⟨.plain, [], some (compressBufferStream compression)⟩)
    compression text rfl
  cases closes with
  | zero =>
      obtain ⟨buffer, trace⟩ := JSONWriter.destroy_moves_held encode opened handle'
        ⟨.plain, [], some ⟨(compressBufferStream compression).filter, text⟩⟩
      refine ⟨_, returns_bind creating (JSONWriter.withLocal_returns encode
        (returns_bind writing rfl)), ?_, trace.trans traced⟩
      simp [buffer, emptied, JSONWriter.held]
  | succ closes =>
      obtain ⟨closed, closing, sent, traced', handle''⟩ := JSONWriter.closeWith_sendToOutput encode
        opened handle' ⟨.plain, [], some ⟨(compressBufferStream compression).filter, text⟩⟩
      obtain ⟨rest, resting, kept, traced'', handle'''⟩ :=
        JSONWriter.closeTimes_released encode closes closed handle''
      obtain ⟨buffer, trace⟩ :=
        JSONWriter.destroy_moves_held encode rest handle''' ⟨.plain, [], none⟩
      refine ⟨_, returns_bind creating (JSONWriter.withLocal_returns encode
        (returns_bind writing (returns_bind closing resting))), ?_,
        trace.trans (traced''.trans (traced'.trans traced))⟩
      simp [buffer, kept, sent, emptied, JSONWriter.held]

theorem gzip_writer_closed_twice_delivers_once :
    ∃ world', useWriter (fun _ bytes => bytes.reverse) (getJSONWriter .gzip) "[1]".toList 2
        (delivered ⟨[]⟩ (1, 1) false) = .ok () world' ∧
      world'.outputBuffer = "]1[".toList ∧ world'.trace = [] :=
  useWriter_getJSONWriter _ rfl rfl .gzip _ 2

/-- The destructor of every writer is `JSONWriter::close` with `JSONWriter::send`: a JSONP
writer dropped without `close()` delivers no `)`, a chunked writer dropped without `close()`
puts its bytes in the output buffer and sends no chunk, and a second `close()` of a JSONP
writer writes to the released stream. -/
theorem writer_destructor_runs_base_close (world : World) (handle : world.req = true)
    (unfinalized : world.finalized = false) (callback text : Bytes) :
    (∃ world', useWriter encode (getJSONPWriter callback) text 0 world = .ok () world' ∧
      world'.outputBuffer = callback ++ ['('] ++ text ∧ world'.trace = world.trace) ∧
    (∃ world', useWriter encode getJSONChunkWriter text 0 world = .ok () world' ∧
      world'.outputBuffer = world.outputBuffer ++ text ∧ world'.trace = world.trace) ∧
    (∃ world', useWriter encode (getJSONPWriter callback) text 2 world =
        .error .nullDereference world' ∧
      world'.outputBuffer = callback ++ ['('] ++ text ++ [')'] ∧
      world'.trace = world.trace) := by
  obtain ⟨⟩ := world
  cases handle
  cases unfinalized
  exact ⟨⟨_, rfl, rfl, rfl⟩, ⟨_, rfl, rfl, rfl⟩, ⟨_, rfl,
    (rfl : _ = callback ++ ['('] ++ text ++ [')'] ++ []).trans (List.append_nil _), rfl⟩⟩

theorem jsonp_writer_dropped_writes_cb_null :
    ∃ world', useWriter (fun _ bytes => bytes) (getJSONPWriter "cb".toList) "null".toList 0
        (delivered ⟨[]⟩ (1, 1) false) = .ok () world' ∧
      world'.outputBuffer = "cb(null".toList ∧ world'.trace = [] :=
  (writer_destructor_runs_base_close _ _ rfl rfl _ _).1

end Request

/-! ## Chunked replies -/

namespace Request

variable {world : World}

end Request

end CbangEvent
