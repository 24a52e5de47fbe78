import Rulebook.Http.Message

/-!
# The service behind an address

A client is a service whose calls go to an address over a network. The network is
anything that takes a request and gives a response or nothing
(`Rulebook.Http.Network`); nothing means that the connection broke before a response
came. Requests are sent without the credentials that the address may hold, and only to
addresses that a request can have (`Rulebook.Http.reachable`). The client refuses the
others itself, and reports them as it reports a broken connection.
-/

namespace Rulebook.Http

/-- The address that settings name, which must be a place that has other places
below it. -/
def address (baseUrl : String) : Except Failure Url :=
  let trimmed := String.ofList (baseUrl.toList.reverse.dropWhile (· == '/')).reverse
  match Url.parse trimmed with
  | .error e => .error (.invalidConfig s!"无效的 base_url: {e.message}")
  | .ok url =>
    if url.extensible then .ok url
    else .error (.invalidConfig s!"base_url 不能作为请求根地址: {url.text}")

/-! ### What can be sent -/

/-- Whether a URL has one of the schemes of the web. -/
def onWeb (url : Url) : Bool := url.scheme == "http" || url.scheme == "https"

/-- The most bytes that the URL of a request can have. -/
def maxUrlSize : Nat := 65534

/-- The characters that the host of a request can have. There are some more that a host can have
in a URL: quotation marks, backticks and braces. -/
def isHostChar (c : Char) : Bool :=
  c.isAlphanum || ['!', '$', '&', '\'', '(', ')', '*', '+', ',', '-', '.', ':', ';', '=', '[', ']',
    '_', '~'].contains c

/-- Whether a request can be sent to a URL. The client checks this by itself, and nothing leaves
it otherwise. Of what stands behind the host only the length counts: a URL is written with
escapes, and the client takes all that is left of them. -/
def reachable (url : Url) : Bool :=
  onWeb url && url.text.utf8ByteSize ≤ maxUrlSize &&
    url.authority?.any fun a => a.host.toList.all isHostChar

/-! ### Asking -/

/-- What a client finds outside: a way to send a request, which may bring a response, and the
charsets that the library leaves open. -/
structure Network (σ : Type) where
  send : Request → σ → Option Response × σ
  others : Decoders

/-- A network on which every request is lost. -/
def Network.dead (σ : Type) : Network σ := ⟨fun _ w => (none, w), fun _ => none⟩

/-- Makes a call to an address. -/
def ask {σ : Type} (net : Network σ) (base : Url) (c : Call) (w : σ) : Reply × σ :=
  match requestFor base c with
  | .error fault => (.error (c.failed fault), w)
  | .ok request =>
    let url := request.url.withoutCredentials
    if ! reachable url then
      (.error (c.failed (.transport s!"builder error for url ({url.text})")), w)
    else
      match net.send { request with url } w with
      | (none, w) =>
        (.error (c.failed (.transport s!"error sending request for url ({url.text})")), w)
      | (some response, w) => (replyTo net.others c response, w)

/-- The service at an address. -/
def service {σ : Type} (net : Network σ) (base : Url) : Service σ := ⟨ask net base⟩

end Rulebook.Http
