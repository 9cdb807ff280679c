import TunnelSession.DryRun.Bench
import TunnelSession.Main
import TunnelSession.Proofs.Session.Agreement
import TunnelSession.Proofs.Session.Coherent
import TunnelSession.Proofs.Session.Recorded
import TunnelSession.Proofs.Session.Run
import TunnelSession.Proofs.Session.Stranded
import TunnelSession.Scripted.Front
import TunnelSession.Scripted.Terminal
import TunnelSession.Settings.Desk
import TunnelSession.Shell.Basic
import TunnelSession.Shell.Launch
import TunnelSession.Shell.Place
import TunnelSession.Proofs.Session.Descriptors
import TunnelSession.Proofs.Console.Lines
import TunnelSession.Proofs.Console.Controls
import TunnelSession.Proofs.Session.Calls
import TunnelSession.Proofs.Session.Outcomes
import TunnelSession.Proofs.Session.Ends
import TunnelSession.Proofs.Session.Ledger
import TunnelSession.Proofs.Session.Diagram
import TunnelSession.Proofs.Session.Refusals
import TunnelSession.Proofs.Address
import TunnelSession.Proofs.Json.RoundTrip
import TunnelSession.Proofs.Settings.Store
import TunnelSession.Proofs.Session.Gateway
import TunnelSession.Proofs.Settings.Desk
import TunnelSession.Proofs.Settings.Opening
import TunnelSession.Proofs.Console.Scope
import TunnelSession.Proofs.Console.GatewayRow
import TunnelSession.Proofs.DryRun.Engine
import TunnelSession.Proofs.Shell.Turns
import TunnelSession.Proofs.Shell.Requests
import TunnelSession.Proofs.Shell.Sittings
import TunnelSession.Proofs.Shell.Leaving
import TunnelSession.Proofs.Tunnel.Addresses
import TunnelSession.Proofs.Text.Blank
import TunnelSession.Proofs.Console.TextRows
import TunnelSession.Proofs.Console.Dialog
import TunnelSession.Proofs.Session.Reading
import TunnelSession.Proofs.Apps
import TunnelSession.Proofs.Neighbors
import TunnelSession.Proofs.Console.GatewayList
import TunnelSession.Proofs.Console.Permission
import TunnelSession.Proofs.Log.Names
import TunnelSession.Proofs.DryRun.Calls
import TunnelSession.Proofs.Tunnel.Links
import TunnelSession.Proofs.Log.Newest
import TunnelSession.Proofs.Settings.Isolation
import TunnelSession.Proofs.Tunnel.Faults
import TunnelSession.Proofs.Descriptor
