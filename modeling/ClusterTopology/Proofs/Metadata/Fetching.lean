import ClusterTopology.Proofs.Events
import ClusterTopology.Proofs.Resolver.Start
import ClusterTopology.Proofs.Text.Garbled

/-!
# How a document is fetched

A document is fetched with one request, and the reply decides how that ends. It gives a text
exactly if the request is granted and the body is the encoding of that text, byte by byte. Every
other reply has a failure of its own: that the service cannot be reached, that the request is not
granted, whatever the body is, that the body is garbled, or one that the client does not know and
passes on.
-/

namespace ClusterTopology.MetadataClient

/-- What is made of a reply to a request. -/
inductive Told (url : String) : Reply → Except Failure String → Prop where
  | text {s : String} : Told url (.answer 200 (Utf8.encode s)) (.ok s)
  | garbled {body : List UInt8} (garbled : Utf8.Garbled body) :
    Told url (.answer 200 body) (.error (.metadata (.notUtf8 url)))
  | refused {status : Int} {body : List UInt8} (refused : status ≠ 200) :
    Told url (.answer status body) (.error (.metadata (.status url status)))
  | unreached {reason : String} :
    Told url (.unreachable reason) (.error (.metadata (.unreachable url reason)))
  | passed {error : ForeignError} : Told url (.failing error) (.error (.foreign error))

/-- Every reply is made something of. -/
theorem told_textOf (url : String) (reply : Reply) : Told url reply (textOf url reply) := by
  rcases reply with ⟨status, body⟩ | reason | error
  · by_cases granted : status = 200
    · subst granted
      rw [textOf, if_neg (by decide)]
      rcases decoded : Utf8.decode body with error | s
      · exact .garbled (Utf8.decode_eq_error_iff.1 ⟨error, decoded⟩)
      · rw [Utf8.decode_eq_ok_iff.1 decoded]
        exact .text
    · rw [textOf, if_pos granted]
      exact .refused granted
  · exact .unreached
  · exact .passed

theorem Told.eq_textOf {url : String} {reply : Reply} {result : Except Failure String}
    (told : Told url reply result) : textOf url reply = result := by
  cases told with
  | text => rw [textOf, if_neg (by decide), Utf8.decode_encode]
  | garbled garbled =>
    obtain ⟨error, fails⟩ := Utf8.decode_eq_error_iff.2 garbled
    rw [textOf, if_neg (by decide), fails]
  | refused refused => rw [textOf, if_pos refused]
  | unreached => rfl
  | passed => rfl

/-- Of every reply one thing is made. -/
theorem textOf_eq_iff {url : String} {reply : Reply} {result : Except Failure String} :
    textOf url reply = result ↔ Told url reply result := by
  constructor
  · rintro rfl
    exact told_textOf url reply
  · exact Told.eq_textOf

section Told

variable {url : String} {reply : Reply}

theorem told_ok_iff {s : String} :
    Told url reply (.ok s) ↔ reply = .answer 200 (Utf8.encode s) := by
  constructor
  · intro told
    cases told
    rfl
  · rintro rfl
    exact .text

theorem told_garbled_iff : Told url reply (.error (.metadata (.notUtf8 url))) ↔
    ∃ body, reply = .answer 200 body ∧ Utf8.Garbled body := by
  constructor
  · intro told
    cases told with
    | garbled garbled => exact ⟨_, rfl, garbled⟩
  · rintro ⟨body, rfl, garbled⟩
    exact .garbled garbled

theorem told_refused_iff {status : Int} :
    Told url reply (.error (.metadata (.status url status))) ↔
      status ≠ 200 ∧ ∃ body, reply = .answer status body := by
  constructor
  · intro told
    cases told with
    | refused refused => exact ⟨refused, _, rfl⟩
  · rintro ⟨refused, body, rfl⟩
    exact .refused refused

theorem told_unreached_iff {reason : String} :
    Told url reply (.error (.metadata (.unreachable url reason))) ↔
      reply = .unreachable reason := by
  constructor
  · intro told
    cases told
    rfl
  · rintro rfl
    exact .unreached

theorem told_passed_iff {error : ForeignError} :
    Told url reply (.error (.foreign error)) ↔ reply = .failing error := by
  constructor
  · intro told
    cases told
    rfl
  · rintro rfl
    exact .passed

end Told

/-- How fetching a document ends, by the reply to the request. -/
structure FetchedAs (client : MetadataClient) (url : String) (reply : Reply)
    (outcome : Outcome String) : Prop where
  /-- There is one request and no other call. -/
  calls : outcome.calls = [.get url client.timeout]
  /-- The text is the one whose encoding the body is. -/
  text : ∀ s, outcome.result = .ok s ↔ reply = .answer 200 (Utf8.encode s)
  unreached : ∀ reason,
    outcome.result = .error (.metadata (.unreachable url reason)) ↔ reply = .unreachable reason
  /-- The status comes before the body. -/
  refused : ∀ status, outcome.result = .error (.metadata (.status url status)) ↔
    status ≠ 200 ∧ ∃ body, reply = .answer status body
  /-- Only of a document that is granted it matters whether it is a text. -/
  garbled : outcome.result = .error (.metadata (.notUtf8 url)) ↔
    ∃ body, reply = .answer 200 body ∧ Utf8.Garbled body
  passed : ∀ error, outcome.result = .error (.foreign error) ↔ reply = .failing error
  /-- There is no other way to end. -/
  covered : Told url reply outcome.result

theorem fetchedAs (client : MetadataClient) (url : String) (w : World) :
    FetchedAs client url (w.http url) ((client.fetch url).run w) := by
  have ends (result : Except Failure String) :
      ((client.fetch url).run w).result = result ↔ Told url (w.http url) result := by
    rw [run_fetch, textOf_eq_iff]
  exact {
    calls := by rw [run_fetch]; rfl
    text := fun s => (ends _).trans told_ok_iff
    unreached := fun reason => (ends _).trans told_unreached_iff
    refused := fun status => (ends _).trans told_refused_iff
    garbled := (ends _).trans told_garbled_iff
    passed := fun error => (ends _).trans told_passed_iff
    covered := (ends _).1 rfl }

/-- Whatever the reply to a request is, fetching a document ends as it should. It ends with a text
exactly if the body is the encoding of that text; so no two bodies give one text, and an empty
body gives the empty text. Garbled bodies are those that are the encoding of no text. -/
theorem fetched_by_reply (client : MetadataClient) (url : String) (w : World) :
    FetchedAs client url (w.http url) ((client.fetch url).run w) ∧
      (∀ other s body changed, w.http url = .answer 200 body →
        other.http url = .answer 200 changed → ((client.fetch url).run w).result = .ok s →
        ((client.fetch url).run other).result = .ok s → body = changed) ∧
      (w.http url = .answer 200 [] → ((client.fetch url).run w).result = .ok "") ∧
      ∀ body, Utf8.Garbled body ↔ ∀ s, body ≠ Utf8.encode s := by
  refine ⟨fetchedAs client url w, ?_, ?_, fun body => Utf8.garbled_iff⟩
  · intro other s body changed replies repliesToo gives givesToo
    rw [(fetchedAs client url w).text, replies, Reply.answer.injEq] at gives
    rw [(fetchedAs client url other).text, repliesToo, Reply.answer.injEq] at givesToo
    exact gives.2.trans givesToo.2.symm
  · exact ((fetchedAs client url w).text "").2

/-- A mark of the byte order stays a character of the text, an empty body is an empty text, and a
zero in a longer form than its own is refused. -/
theorem fetched_by_reply_of_marked :
    let w (body : List UInt8) : World :=
      { http := fun _ => .answer 200 body, redis := ⟨[], none, none⟩, files := Files.empty,
        log := none, time := "" }
    let client := MetadataClient.default
    let result (body : List UInt8) := ((client.fetch "u").run (w body)).result
    result [0xef, 0xbb, 0xbf, 0x61] = .ok "\uFEFFa" ∧ result [] = .ok "" ∧
      (∀ body, result body = .ok "\uFEFFa" → body = [0xef, 0xbb, 0xbf, 0x61]) ∧
      Utf8.Garbled [0x61, 0xc0, 0x80] ∧
      result [0x61, 0xc0, 0x80] = .error (.metadata (.notUtf8 "u")) := by
  intro w client result
  have encoded : [0xef, 0xbb, 0xbf, 0x61] = Utf8.encode "\uFEFFa" := by decide +kernel
  have marked : result [0xef, 0xbb, 0xbf, 0x61] = .ok "\uFEFFa" := by
    have fetched := (fetched_by_reply client "u" (w [0xef, 0xbb, 0xbf, 0x61])).1
    exact (fetched.text _).2 (congrArg (Reply.answer 200) encoded)
  have empty := (fetched_by_reply client "u" (w [])).2.2.1 rfl
  have garbled : Utf8.Garbled [0x61, 0xc0, 0x80] := by
    have form := Utf8.Form.two (a := 0xc0) (b := 0x80) (by decide) (by decide) (by decide)
    have fault : Utf8.Fault ([0xc0, 0x80] ++ []) := .overlong form (by decide)
    exact ⟨"a", [0xc0, 0x80], by decide +kernel, fault⟩
  have refused := (fetched_by_reply client "u" (w [0x61, 0xc0, 0x80])).1.garbled.2
    ⟨_, rfl, garbled⟩
  refine ⟨marked, empty, fun body gives => ?_, garbled, refused⟩
  exact (fetched_by_reply client "u" (w body)).2.1 (w [0xef, 0xbb, 0xbf, 0x61]) _ _ _ rfl rfl
    gives marked

end ClusterTopology.MetadataClient
