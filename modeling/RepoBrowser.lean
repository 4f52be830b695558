import RepoBrowser.Main
import RepoBrowser.Proofs.History.Response
import RepoBrowser.Proofs.Explorer.Response
import RepoBrowser.Proofs.Browser.Change
import RepoBrowser.Proofs.Browser.Agreement
import RepoBrowser.Proofs.History.Paging
import RepoBrowser.Proofs.Exchange.Basic
import RepoBrowser.Proofs.Explorer.Contents
import RepoBrowser.Proofs.History.Contents
import RepoBrowser.Proofs.Exchange.Provenance
import RepoBrowser.Proofs.Explorer.Waiting
import RepoBrowser.Proofs.History.Waiting
import RepoBrowser.Proofs.Browser.Waiting
import RepoBrowser.Proofs.Exchange.Waiting
import RepoBrowser.Proofs.Browser.Equations
import RepoBrowser.Proofs.Browser.Status
import RepoBrowser.Proofs.Browser.Arrival
import RepoBrowser.Proofs.Exchange.Asking
import RepoBrowser.Proofs.Browser.Pane
import RepoBrowser.Proofs.Exchange.Steadiness
import RepoBrowser.Proofs.Browser.Routing
import RepoBrowser.Proofs.Browser.Size
import RepoBrowser.Proofs.Browser.Selection
import RepoBrowser.Proofs.Screen.Filling
import RepoBrowser.Proofs.Session.Sizing
import RepoBrowser.Proofs.Explorer.Walk
import RepoBrowser.Proofs.Explorer.Trail
import RepoBrowser.Proofs.Explorer.Verdict
import RepoBrowser.Proofs.History.Window
import RepoBrowser.Proofs.Explorer.Window
import RepoBrowser.Proofs.History.Total
import RepoBrowser.Proofs.History.FollowUps
import RepoBrowser.Proofs.History.Lookahead
import RepoBrowser.Proofs.Browser.Failure
import RepoBrowser.Proofs.Pager.Scroll
import RepoBrowser.Proofs.Browser.Scroll
import RepoBrowser.Proofs.Text.SingleWidth
import RepoBrowser.Proofs.Screen.Spans
import RepoBrowser.Proofs.History.Row
import RepoBrowser.Proofs.Explorer.Row
import RepoBrowser.Proofs.Text.Visible
import RepoBrowser.Proofs.Screen.Paragraph
import RepoBrowser.Proofs.StatusLine
import RepoBrowser.Proofs.Text.Lines
import RepoBrowser.Proofs.History.Changes
import RepoBrowser.Proofs.Forge.Diff
import RepoBrowser.Proofs.Text.Utf8
import RepoBrowser.Proofs.Forge.Gitea
import RepoBrowser.Proofs.Text.Base64
import RepoBrowser.Proofs.Forge.File
import RepoBrowser.Proofs.Text.Parts
import RepoBrowser.Proofs.Text.Percent
import RepoBrowser.Proofs.Forge.Path
import RepoBrowser.Proofs.Config.Choice
import RepoBrowser.Proofs.Remote.Form
import RepoBrowser.Proofs.Remote.Address
import RepoBrowser.Proofs.Remote.Name
import RepoBrowser.Proofs.Remote.User
import RepoBrowser.Proofs.Credential
import RepoBrowser.Proofs.TabStrip
import RepoBrowser.Proofs.Session.Press
import RepoBrowser.Proofs.Machine.Pager
import RepoBrowser.Proofs.Machine.History
import RepoBrowser.Proofs.Machine.Explorer
import RepoBrowser.Proofs.Machine.Browser
import RepoBrowser.Proofs.Machine.Drawing
import RepoBrowser.Proofs.Machine.Session
import RepoBrowser.Proofs.Pager.Highlight
import RepoBrowser.Proofs.Browser.History
import RepoBrowser.Proofs.Session.Program
