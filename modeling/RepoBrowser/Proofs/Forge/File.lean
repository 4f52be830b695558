import RepoBrowser.Forge.GitHub
import RepoBrowser.Proofs.Forge.Gitea
import RepoBrowser.Proofs.Text.Base64

/-!
# The text of a file, from either forge

GitHub sends a file in Base64, as part of a reply in JSON and broken into lines, and Gitea sends its
bytes.  What is shown of a file must not depend on the way that it took.

* `Serves`, `getJson_of_serves` — an interface that has a reply at a route;
* `decodeContent_of_spaced` — what is read of a content that is broken by blanks;
* `forges_show_same_text` — both forges show the text of the file's bytes.
-/

namespace RepoBrowser.GitHub

open Text Http

section

variable {m : Type → Type} [Monad m] [LawfulMonad m]
variable {account : Account} {transport : Transport m} {route : String} {reply : Reply}
variable {body : Json}

/-- The interface has a reply at a route, and the reply holds a body in JSON. -/
structure Serves (account : Account) (transport : Transport m) (route : String) (reply : Reply)
    (body : Json) : Prop where
  sendable : routeIsSendable route = true
  sent : transport ⟨host, String.ofList (sentPart route), "Bearer " ++ account.token⟩
    = pure (.reply reply)
  success : reply.isSuccess = true
  holds : bodyOf? reply = some body

theorem isTrouble_of_success (success : reply.isSuccess = true) :
    isTrouble (.reply reply) = false := by
  simp only [Reply.isSuccess, Bool.and_eq_true, decide_eq_true_eq] at success
  simp only [isTrouble, Bool.or_eq_false_iff, Bool.and_eq_false_iff, decide_eq_false_iff_not]
  omega

/-- A request that succeeds is not repeated. -/
theorem send_of_success {request : Http.Request} (success : reply.isSuccess = true)
    (sent : transport request = pure (.reply reply)) (n : Nat) :
    send transport request n = pure (.reply reply) := by
  cases n with
  | zero => exact sent
  | succ n => simp [send, sent, isTrouble_of_success success]

theorem getJson_of_serves (serves : Serves account transport route reply body) :
    getJson account transport route = pure (.ok body) := by
  have answer : resultOf Except.ok reply = .ok body := by
    simp only [resultOf, serves.holds, serves.success, if_true]
    rfl
  unfold getJson get
  rw [if_neg (by simp [serves.sendable])]
  simp only []
  rw [send_of_success serves.success serves.sent, pure_bind]
  simp only [answer]

/-- What is read of a content, however it is broken by blanks. -/
theorem decodeContent_of_spaced {bytes : List UInt8} {content : List Char}
    (spaced : Base64.Spaced (Base64.text bytes) content)
    (holds : body.textAt? ["content"] = some (String.ofList content))
    (encoded : body.textAt? ["encoding"] ≠ some "none") :
    decodeContent body = .ok (displayText bytes) := by
  have graphic : ∀ c ∈ Base64.text bytes, isBlank c = false := fun c => Base64.isBlank_of_mem_text
  unfold decodeContent
  rw [if_neg encoded, holds]
  simp only [Option.getD_some, String.toList_ofList]
  rw [spaced.filter_eq graphic, Base64.encode_text, Base64.decode_encode]

variable {r : Repository} {reference : Reference} {path : String}

theorem file_of_serves
    (serves : Serves account transport (contentsAt r reference path) reply body) :
    file account transport r reference path
      = pure ((decodeContent body).map String.ofList) := by
  unfold file
  rw [getJson_of_serves serves, pure_bind]

end

end RepoBrowser.GitHub

namespace RepoBrowser.Gitea

open Text Http

variable {m : Type → Type} [Monad m] [LawfulMonad m]
variable {server : Server} {send : Transport m} {r : Repository} {reference : Reference}
variable {path : String} {reply : Reply}

theorem file_of_serves (serves : Serves server send (server.fileUrl r path ++ "?ref="
      ++ String.ofList (Percent.encode reference.target.toList)) reply) :
    file server send r reference path
      = pure (.ok (String.ofList (displayText reply.body))) := by
  unfold file
  simp only [getText_of_serves serves, pure_bind]
  rfl

end RepoBrowser.Gitea

namespace RepoBrowser

open Text Http

/-! ### What is shown of bytes -/

variable {bytes : List UInt8}

/-- A file with a zero byte is shown as a notice of its length. -/
theorem displayText_of_zero (zero : 0 ∈ bytes) :
    String.ofList (displayText bytes)
      = "Binary file (" ++ toString bytes.length ++ " bytes) not shown." := by
  have digits : toString bytes.length = String.ofList (Nat.toDigits 10 bytes.length) := rfl
  unfold displayText
  rw [if_pos (List.contains_iff_mem.mpr zero), digits, String.ofList_append, String.ofList_append,
    String.ofList_toList, String.ofList_toList]

/-- Any other file is shown as what its bytes are in UTF-8. -/
theorem displayText_of_textual (textual : 0 ∉ bytes) :
    displayText bytes = Utf8.decodeLossy bytes := by
  unfold displayText
  rw [if_neg fun zero => textual (List.contains_iff_mem.mp zero)]

/-! ### Both forges -/

/-- **Both forges show the same text of a file**, whatever its bytes are and however the Base64 of
them is broken by blanks: a notice if there is a zero byte among them, and otherwise the bytes read
as UTF-8, with a replacement for what is not; so a text is shown as it is. -/
theorem forges_show_same_text {m m' : Type → Type} [Monad m] [LawfulMonad m] [Monad m']
    [LawfulMonad m'] {account : GitHub.Account} {transport : Transport m} {server : Gitea.Server}
    {send : Transport m'} {r r' : Repository} {reference reference' : Reference}
    {path path' : String} {reply raw : Reply} {body : Json} {content : List Char}
    (onGitHub : GitHub.Serves account transport (GitHub.contentsAt r reference path) reply body)
    (holds : body.textAt? ["content"] = some (String.ofList content))
    (encoded : body.textAt? ["encoding"] ≠ some "none")
    (spaced : Base64.Spaced (Base64.text bytes) content)
    (onGitea : Gitea.Serves server send (server.fileUrl r' path' ++ "?ref="
      ++ String.ofList (Percent.encode reference'.target.toList)) raw)
    (same : raw.body = bytes) :
    ∃ text, GitHub.file account transport r reference path = pure (.ok text) ∧
      Gitea.file server send r' reference' path' = pure (.ok text) ∧
      (0 ∈ bytes → text = "Binary file (" ++ toString bytes.length ++ " bytes) not shown.") ∧
      (0 ∉ bytes → text = String.ofList (Utf8.decodeLossy bytes)) ∧
      ∀ s, bytes = Utf8.encode s → '\x00' ∉ s → text = String.ofList s := by
  refine ⟨String.ofList (displayText bytes), ?_, ?_, displayText_of_zero, fun textual => ?_,
    fun s written textual => ?_⟩
  · rw [GitHub.file_of_serves onGitHub, GitHub.decodeContent_of_spaced spaced holds encoded]
    rfl
  · rw [Gitea.file_of_serves onGitea, same]
  · rw [displayText_of_textual textual]
  · rw [written, Gitea.displayText_encode textual]

/-- The bytes of a small file. -/
def sampleBytes : List UInt8 := [0x68, 0x69, 0x0A, 0x00, 0xFF]

/-- What they are written as, in two lines. -/
def sampleContent : List Char := "aGkK\nAP8=\n".toList

/-- The body of a reply that carries them. -/
def sampleBody : Json :=
  .object [("encoding", .string "base64"), ("content", .string (String.ofList sampleContent))]

/-- The same in writing. -/
def sampleBodyText : List Char :=
  "\x7b\"encoding\":\"base64\",\"content\":\"aGkK\\nAP8=\\n\"\x7d".toList

/-- A branch at which it is. -/
def sampleReference : Reference := ⟨"main", "4f2c9a1"⟩

/-- A transport that has one reply to all requests. -/
def sampleTransport (body : List UInt8) : Transport Id := fun _ => .reply ⟨200, [], body, true⟩

theorem sampleTransport_serves_contents :
    GitHub.Serves ⟨"t"⟩ (sampleTransport (Utf8.encode sampleBodyText))
      (GitHub.contentsAt Gitea.sampleRepository sampleReference "notes.bin")
      ⟨200, [], Utf8.encode sampleBodyText, true⟩ sampleBody where
  sendable := by decide
  sent := rfl
  success := rfl
  holds := by
    unfold GitHub.bodyOf?
    rw [if_pos rfl, Utf8.decode?_encode]
    rfl

theorem sampleTransport_serves_bytes :
    Gitea.Serves Gitea.sampleServer (sampleTransport sampleBytes)
      (Gitea.sampleServer.fileUrl Gitea.sampleRepository "notes.bin" ++ "?ref="
        ++ String.ofList (Percent.encode sampleReference.target.toList))
      ⟨200, [], sampleBytes, true⟩ where
  authorized := by decide
  sent := ⟨⟨"[::1]".toList, none, "/api/v1/repos/acme/demo/raw/notes.bin".toList,
    some "ref=4f2c9a1".toList, none⟩, by decide, rfl⟩
  success := rfl
  complete := rfl

/-- A file of five bytes, of which one is zero, is shown as the same notice by both. -/
theorem forges_show_same_text_sample :
    ∃ text, GitHub.file ⟨"t"⟩ (sampleTransport (Utf8.encode sampleBodyText)) Gitea.sampleRepository
        sampleReference "notes.bin" = pure (.ok text) ∧
      Gitea.file Gitea.sampleServer (sampleTransport sampleBytes) Gitea.sampleRepository
        sampleReference "notes.bin" = pure (.ok text) ∧
      text = "Binary file (5 bytes) not shown." := by
  have spaced : Base64.Spaced (Base64.text sampleBytes) sampleContent :=
    .char 'a' (.char 'G' (.char 'k' (.char 'K' (.blank (by decide) (.char 'A' (.char 'P'
      (.char '8' (.char '=' (.blank (by decide) .nil)))))))))
  obtain ⟨text, onGitHub, onGitea, notice, -⟩ := forges_show_same_text
    sampleTransport_serves_contents rfl (by decide) spaced sampleTransport_serves_bytes rfl
  exact ⟨text, onGitHub, onGitea, notice (by decide)⟩

end RepoBrowser
