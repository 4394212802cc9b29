import LibPcp.Matching
import LibPcp.Attachment
import LibPcp.Closing
import LibPcp.ServerTable
import LibPcp.FlowTable
import LibPcp.Armed
import LibPcp.Calm
import LibPcp.Rest
import LibPcp.Settled
import LibPcp.Rejected
import LibPcp.Fresh
import LibPcp.Retries
import LibPcp.Renewal
import LibPcp.Woken
import LibPcp.Pinging
import LibPcp.Chains
import LibPcp.Notices
import LibPcp.Spoofed
import LibPcp.Events
import LibPcp.Expiry
import LibPcp.Sending
import LibPcp.Versions
import LibPcp.Wait
import LibPcp.Wakeups
import LibPcp.Loop
import LibPcp.PingFlow
import LibPcp.Terminate
import LibPcp.Isolation
import LibPcp.Negotiation
import LibPcp.Granted
import LibPcp.Quarantine
import LibPcp.Registration
import LibPcp.FanOut
import LibPcp.Asleep
import LibPcp.Restart
import LibPcp.Nearest
import LibPcp.Announced
import LibPcp.Horizon
import LibPcp.Milliseconds
import LibPcp.Respite
import LibPcp.Epochs
import LibPcp.Backoff
import LibPcp.CText
import LibPcp.SockNtop
import LibPcp.SockRoundtrip
import LibPcp.SockPrefix
import LibPcp.OwnBytes
import LibPcp.OptionFaults
import LibPcp.Sadscp
import LibPcp.InsertionMap
import LibPcp.Metadata
import LibPcp.Families
import LibPcp.Cells
import LibPcp.InPlace
import LibPcp.Soup
import LibPcp.ServerLoop
import LibPcp.Grants
import LibPcp.Interop
import LibPcp.TwoParty
import LibPcp.Records
import LibPcp.Gateways
import LibPcp.Discovery
import LibPcp.Handles
import LibPcp.Getopt
import LibPcp.AppParams
import LibPcp.App
import LibPcp.ServerArgs
