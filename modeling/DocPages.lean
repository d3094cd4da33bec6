import DocPages.Build
import DocPages.Command.Arguments
import DocPages.Command.Run
import DocPages.Component
import DocPages.Context
import DocPages.Data
import DocPages.Decimal.Layout
import DocPages.Decimal.Read
import DocPages.Decimal.Shortest
import DocPages.Device
import DocPages.Document
import DocPages.FileSystem
import DocPages.FragmentCache
import DocPages.Instant
import DocPages.Json.Write
import DocPages.Main
import DocPages.Markup
import DocPages.Node.Basic
import DocPages.Page.Basic
import DocPages.Page.Descriptor
import DocPages.Page.Frontend
import DocPages.Page.Header
import DocPages.Page.Index
import DocPages.Path
import DocPages.Site.Config
import DocPages.Site.Load
import DocPages.Table
import DocPages.Text.Blank
import DocPages.Text.Escape
import DocPages.Text.Order
import DocPages.Text.Quoted
import DocPages.Text.Visible
import DocPages.Yaml.Error
import DocPages.Yaml.Moment
import DocPages.Yaml.Node
import DocPages.Yaml.Read
import DocPages.Yaml.Schema
import DocPages.Yaml.Source
import DocPages.Yaml.Token
import DocPages.Yaml.Token.Lexer
import DocPages.Yaml.Token.Scalar
import DocPages.Yaml.Value
import DocPages.Proofs.Markup.Token
import DocPages.Proofs.Markup.Normal
import DocPages.Proofs.Decimal.Digits
import DocPages.Proofs.Document.Instant
import DocPages.Proofs.Document.Unique
import DocPages.Proofs.Json.Read
import DocPages.Proofs.FileSystem.Write
import DocPages.Proofs.Json.PageData
import DocPages.Proofs.FragmentCache.Interleaved
import DocPages.Proofs.FragmentCache.Safety
import DocPages.Proofs.Page.Index
import DocPages.Proofs.FileSystem.Frame
import DocPages.Proofs.FileSystem.Device
import DocPages.Proofs.FileSystem.Parent
import DocPages.Proofs.FileSystem.Directories
import DocPages.Proofs.Action
import DocPages.Proofs.Build.Run
import DocPages.Proofs.Path.Names
import DocPages.Proofs.Build.Separate
import DocPages.Proofs.Frontend.Cache
import DocPages.Proofs.Frontend.Run
import DocPages.Proofs.Frontend.Tree
import DocPages.Proofs.Frontend.Sharing
import DocPages.Proofs.Frontend.Marker
import DocPages.Proofs.Build.Inside
import DocPages.Proofs.Context.Log
import DocPages.Proofs.Build.Again
import DocPages.Proofs.Command.Steps
import DocPages.Proofs.Markup.Reached
import DocPages.Proofs.Markup.Traversal
import DocPages.Proofs.Markup.Place
import DocPages.Proofs.Markup.Gap
import DocPages.Proofs.Command.Selection
import DocPages.Proofs.FragmentCache.Accounting
import DocPages.Proofs.FragmentCache.Lasting
import DocPages.Proofs.Document.Contents
import DocPages.Proofs.Site.Errors
import DocPages.Proofs.Path.Display
import DocPages.Proofs.Markup.Attributes
import DocPages.Proofs.Build.Stopped
import DocPages.Proofs.Text.Words
import DocPages.Proofs.Site.NormalForm
