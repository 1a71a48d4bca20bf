import StoryHooks.Bridge.Lua
import StoryHooks.Bridge.Recording
import StoryHooks.LogFilter
import StoryHooks.Pool.Session
import StoryHooks.Proofs.Accounting
import StoryHooks.Proofs.Arena
import StoryHooks.Proofs.Delivery
import StoryHooks.Proofs.Deque
import StoryHooks.Proofs.Diagnoses
import StoryHooks.Proofs.Frames
import StoryHooks.Proofs.KeyParts
import StoryHooks.Proofs.Latch
import StoryHooks.Proofs.Legality
import StoryHooks.Proofs.Listeners
import StoryHooks.Proofs.Loading
import StoryHooks.Proofs.Outcomes
import StoryHooks.Proofs.Overrides
import StoryHooks.Proofs.Pools
import StoryHooks.Proofs.Readings
import StoryHooks.Proofs.Reports
import StoryHooks.Proofs.RoundTrip
import StoryHooks.Proofs.Rounding
import StoryHooks.Proofs.Shapes
import StoryHooks.Proofs.Shutdown
import StoryHooks.Proofs.Simulation
import StoryHooks.Proofs.ValueStack
import StoryHooks.Proofs.Whole
import StoryHooks.Subscription.Session
