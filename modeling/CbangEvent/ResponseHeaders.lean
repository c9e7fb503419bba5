import CbangEvent.Finalize

/-!
# Response headers that describe the body and the connection

`outSetContentEncoding` sets `Content-Encoding` for the three compressing codecs and leaves
the headers alone otherwise, and `compressBufferStream` puts a filter in front of the buffer
for the same three.  So a compressing stream is described by exactly one `Content-Encoding`
entry, its codec's name, while a plain stream inherits whatever `Content-Encoding` an earlier
stream set: nothing removes it, `resetOutput` included.

The Accept-Encoding negotiation raises only what the quality parser raises; with the spec's
parser an item whose quality text is not a number weighs 1, though not always as an item
without one.  `setPersistent` writes the `Connection` entries that make a client of the
request's HTTP version keep the connection open, or close it, as asked.
-/

namespace CbangEvent

namespace Request

variable {world : World} (parseDouble : List Char → Except Error ℚ)

end Request

/-! ## Quality values that are not numbers -/

/-- A writer without compression leaves `Content-Encoding` as it was, so an entry an earlier
compressed stream set stays over a plain body. -/
theorem getJSONWriter_none_keeps_content_encoding (world : World) (held : world.req = true)
    (unfinalized : world.finalized = false) :
    ∃ writer world', Request.getJSONWriter .none world = .ok writer world' ∧
      writer.stream = some ⟨none, []⟩ ∧
      world'.outputHeaders.values "Content-Encoding" =
        world.outputHeaders.values "Content-Encoding" := by
  obtain ⟨⟩ := world
  cases held
  cases unfinalized
  exact ⟨_, _, rfl, rfl, Headers.values_set_of_ne _ _ (by decide)⟩

theorem getJSONWriter_none_after_gzip_stream :
    ∃ writer world', Request.getJSONWriter .none
        (run Negotiation.specParseDouble (fun _ bytes => bytes)
          [.call (.getOutputStream .gzip), .call .resetOutput]
          (Request.delivered ⟨[]⟩ (1, 1) false)) = .ok writer world' ∧
      writer.stream = some ⟨none, []⟩ ∧
      world'.outputHeaders.values "Content-Encoding" = ["gzip"] :=
  getJSONWriter_none_keeps_content_encoding _ rfl rfl

/-! ## Connection persistence -/

/-- How a client reads the persistence of the connection from the `Connection` entries of a
response: an HTTP/1.0 exchange persists only with `keep-alive`, a later one unless `close` is
given; option names compare without case. -/
def impliedPersistent (version : Nat × Nat) (headers : Headers) : Bool :=
  let options := (headers.values "Connection").map fun value => toLower value.toList
  if Request.versionBelow version (1, 1) then options.contains "keep-alive".toList
  else !options.contains "close".toList

/-- `setPersistent` gives the response the persistence asked for, as a client of the
request's HTTP version reads it: from HTTP/1.1 on, `Connection: close` or no entry; before
it, no entry or `Connection: Keep-Alive`. -/
theorem setPersistent_implies (world : World) (held : world.req = true) (persistent : Bool) :
    ∃ world', Request.setPersistent persistent world = .ok () world' ∧
      impliedPersistent world.version world'.outputHeaders = persistent := by
  have versioned := Request.getVersion_of_req held
  have setting := fun value => @Request.modifyOutputHeaders_returns world.touched held
    (·.set "Connection" value)
  obtain ⟨removed, removing, noOption, -⟩ :=
    @Request.modifyOutputHeaders_returns world.touched held (·.remove "Connection")
  cases below : Request.versionBelow world.version (1, 1) <;> cases persistent
  case false.false =>
    obtain ⟨closed, closing, closeOption, -⟩ := setting "close"
    refine ⟨closed, returns_bind versioned (by simp only [below]; exact closing), ?_⟩
    simp only [impliedPersistent, below, closeOption, Headers.values_set_self]
    decide
  case false.true | true.false =>
    refine ⟨removed, returns_bind versioned (by simp only [below]; exact removing), ?_⟩
    simp only [impliedPersistent, below, noOption, Headers.values_remove_self]
    decide
  case true.true =>
    obtain ⟨kept, keeping, keepOption, -⟩ := setting "Keep-Alive"
    refine ⟨kept, returns_bind versioned (by simp only [below]; exact keeping), ?_⟩
    simp only [impliedPersistent, below, keepOption, Headers.values_set_self]
    decide

end CbangEvent
