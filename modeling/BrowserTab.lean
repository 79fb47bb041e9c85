import BrowserTab.Dialog.Host
import BrowserTab.Dialog.Outline
import BrowserTab.Fault
import BrowserTab.Journal
import BrowserTab.Language.Code
import BrowserTab.Language.Resolver.Outline
import BrowserTab.Page.Response
import BrowserTab.Proofs.Dialog.Blocking
import BrowserTab.Proofs.Dialog.Clearing
import BrowserTab.Proofs.Dialog.Exposure
import BrowserTab.Proofs.Dialog.Hiding
import BrowserTab.Proofs.Dialog.LateReport
import BrowserTab.Proofs.Dialog.Presence
import BrowserTab.Proofs.Dialog.Staying
import BrowserTab.Proofs.Dialog.Waiting
import BrowserTab.Proofs.Language.Canonical
import BrowserTab.Proofs.Language.Declaration
import BrowserTab.Proofs.Language.Distrust
import BrowserTab.Proofs.Page.Declared
import BrowserTab.Proofs.Page.Precedence
import BrowserTab.Proofs.Encoding.Utf8
import BrowserTab.Proofs.Language.Misdeclaration
import BrowserTab.Proofs.Language.Telemetry
import BrowserTab.Proofs.Markup.Reread
import BrowserTab.Proofs.Page.Charset
import BrowserTab.Proofs.Page.Prescan
import BrowserTab.Proofs.Encoding.RoundTrip
import BrowserTab.Proofs.Encoding.Plain
import BrowserTab.Proofs.Page.Mark
import BrowserTab.Proofs.Encoding.Label
import BrowserTab.Proofs.Page.HeaderCharset
import BrowserTab.Proofs.Page.MediaType
import BrowserTab.Proofs.Text.Extension
import BrowserTab.Proofs.Markup.Extension
import BrowserTab.Proofs.Page.LabelEnd
import BrowserTab.Proofs.Page.Cut
import BrowserTab.Proofs.Page.PlainText
import BrowserTab.Proofs.Page.Sliced
import BrowserTab.Proofs.Language.Acceptance
import BrowserTab.Proofs.Language.Similarity
import BrowserTab.Proofs.Language.PrimaryTag
import BrowserTab.Proofs.Dialog.Replay
import BrowserTab.Proofs.Language.Sink
import BrowserTab.Proofs.Language.Pattern
import BrowserTab.Proofs.Language.Correction
