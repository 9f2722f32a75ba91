import EmailComposer.Content.Named
import EmailComposer.Main
import EmailComposer.Proofs.Markup.Segment
import EmailComposer.Service.CommandLine
import EmailComposer.Service.Handler
import EmailComposer.Settings.LogLevel
import EmailComposer.Settings.Schema
import EmailComposer.Template.Schema
import EmailComposer.Validation.Report
import EmailComposer.Proofs.Markup.Entity
import EmailComposer.Proofs.Markup.Tag
import EmailComposer.Proofs.Markup.Sanitize
import EmailComposer.Proofs.Markup.Replace
import EmailComposer.Proofs.Token.Mask
import EmailComposer.Proofs.Token.Restore
import EmailComposer.Proofs.Content.Policy
import EmailComposer.Proofs.Token.Opener
import EmailComposer.Proofs.Token.Masked
import EmailComposer.Proofs.Content.Marker
import EmailComposer.Proofs.Markup.Element
import EmailComposer.Proofs.Token.Expand
import EmailComposer.Proofs.Rendering.Block
import EmailComposer.Proofs.Composition.Compose
import EmailComposer.Proofs.Token.Pass
import EmailComposer.Proofs.Content.Transparent
import EmailComposer.Proofs.Service.Verdict
import EmailComposer.Proofs.Validation.Acceptance
import EmailComposer.Proofs.Validation.Reordering
import EmailComposer.Proofs.Content.Collision
import EmailComposer.Proofs.Content.Whitelist
import EmailComposer.Proofs.Schema.Spelling
import EmailComposer.Proofs.Block.Dump
import EmailComposer.Proofs.Service.Answer
import EmailComposer.Proofs.Service.CommandLine
import EmailComposer.Proofs.Token.InlineTag
import EmailComposer.Proofs.Validation.Strictness
import EmailComposer.Proofs.Composition.Outcome
import EmailComposer.Proofs.Composition.Body
import EmailComposer.Proofs.Text.Count
import EmailComposer.Proofs.Token.Balance
import EmailComposer.Proofs.Token.Nesting
import EmailComposer.Proofs.Url.Usable
import EmailComposer.Proofs.Validation.Order
import EmailComposer.Proofs.Validation.UsableUrl
import EmailComposer.Proofs.Rendering.Style
import EmailComposer.Proofs.Content.Report
import EmailComposer.Proofs.Rendering.Frame
import EmailComposer.Proofs.Markup.Split
import EmailComposer.Proofs.Markup.Decode
import EmailComposer.Proofs.Token.AtOnce
import EmailComposer.Proofs.Rendering.Color
